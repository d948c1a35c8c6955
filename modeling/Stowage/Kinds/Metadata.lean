import Stowage.Document.Decoding
import Stowage.Moment.Reader
import Stowage.ObjectKey

/-! The metadata that every cluster object carries, as far as it is kept. Each field may be absent. -/
namespace Stowage

namespace Moment

def document (t : Moment) : Document := .string t.text

def decoder : Decoder Moment :=
  .textAs "an RFC 3339 formatted date and time string" fun s => (Moment.read s).mapError (·.message)

end Moment

structure OwnerReference where
  apiVersion : String
  kind : String
  name : String
  uid : String
  blockOwnerDeletion : Option Bool
  controller : Option Bool
deriving DecidableEq, Repr

namespace OwnerReference

def document (o : OwnerReference) : Document :=
  .ofPresent [
    ("apiVersion", some (.string o.apiVersion)),
    ("kind", some (.string o.kind)),
    ("name", some (.string o.name)),
    ("uid", some (.string o.uid)),
    ("blockOwnerDeletion", o.blockOwnerDeletion.map .bool),
    ("controller", o.controller.map .bool)]

/-- A text that is empty where it is absent. -/
def textField (name : String) : Fields String := (·.getD "") <$> Fields.optional name .text

def decoder : Decoder OwnerReference :=
  .members "OwnerReference" (mk
    <$> textField "apiVersion"
    <*> textField "kind"
    <*> textField "name"
    <*> textField "uid"
    <*> .optional "blockOwnerDeletion" .bool
    <*> .optional "controller" .bool)

end OwnerReference

structure ManagedFields where
  apiVersion : Option String
  fieldsType : Option String
  fields : Option Document
  manager : Option String
  operation : Option String
  subresource : Option String
  time : Option Moment

namespace ManagedFields

def document (m : ManagedFields) : Document :=
  .ofPresent [
    ("apiVersion", m.apiVersion.map .string),
    ("fieldsType", m.fieldsType.map .string),
    ("fieldsV1", m.fields),
    ("manager", m.manager.map .string),
    ("operation", m.operation.map .string),
    ("subresource", m.subresource.map .string),
    ("time", m.time.map Moment.document)]

def decoder : Decoder ManagedFields :=
  .members "ManagedFieldsEntry" (mk
    <$> .optional "apiVersion" .text
    <*> .optional "fieldsType" .text
    <*> .optional "fieldsV1" .any
    <*> .optional "manager" .text
    <*> .optional "operation" .text
    <*> .optional "subresource" .text
    <*> .optional "time" Moment.decoder)

end ManagedFields

structure Metadata where
  name : Option String := none
  generateName : Option String := none
  «namespace» : Option String := none
  uid : Option String := none
  resourceVersion : Option String := none
  selfLink : Option String := none
  generation : Option Int64 := none
  creationTimestamp : Option Moment := none
  deletionTimestamp : Option Moment := none
  deletionGracePeriodSeconds : Option Int64 := none
  labels : Option (List (String × String)) := none
  annotations : Option (List (String × String)) := none
  ownerReferences : Option (List OwnerReference) := none
  finalizers : Option (List String) := none
  managedFields : Option (List ManagedFields) := none

namespace Metadata

/-- The name, or what the server makes a name from. -/
def anyName (m : Metadata) : String := m.name.getD (m.generateName.getD "")

def anyNamespace (m : Metadata) : String := m.namespace.getD ""

def key (m : Metadata) : ObjectKey := ⟨m.anyNamespace, m.anyName⟩

def ofTexts (table : List (String × String)) : Document :=
  .ofMembers (table.map fun (k, v) => (k, .string v))

def document (m : Metadata) : Document :=
  .ofPresent [
    ("name", m.name.map .string),
    ("generateName", m.generateName.map .string),
    ("namespace", m.namespace.map .string),
    ("uid", m.uid.map .string),
    ("resourceVersion", m.resourceVersion.map .string),
    ("selfLink", m.selfLink.map .string),
    ("generation", m.generation.map .int64),
    ("creationTimestamp", m.creationTimestamp.map Moment.document),
    ("deletionTimestamp", m.deletionTimestamp.map Moment.document),
    ("deletionGracePeriodSeconds", m.deletionGracePeriodSeconds.map .int64),
    ("labels", m.labels.map ofTexts),
    ("annotations", m.annotations.map ofTexts),
    ("ownerReferences", m.ownerReferences.map fun os => .array (os.map OwnerReference.document)),
    ("finalizers", m.finalizers.map fun fs => .array (fs.map .string)),
    ("managedFields", m.managedFields.map fun fs => .array (fs.map ManagedFields.document))]

def decoder : Decoder Metadata :=
  .members "ObjectMeta" (mk
    <$> .optional "name" .text
    <*> .optional "generateName" .text
    <*> .optional "namespace" .text
    <*> .optional "uid" .text
    <*> .optional "resourceVersion" .text
    <*> .optional "selfLink" .text
    <*> .optional "generation" .int64
    <*> .optional "creationTimestamp" Moment.decoder
    <*> .optional "deletionTimestamp" Moment.decoder
    <*> .optional "deletionGracePeriodSeconds" .int64
    <*> .optional "labels" (.table .text)
    <*> .optional "annotations" (.table .text)
    <*> .optional "ownerReferences" (.list OwnerReference.decoder)
    <*> .optional "finalizers" (.list .text)
    <*> .optional "managedFields" (.list ManagedFields.decoder))

end Metadata
end Stowage
