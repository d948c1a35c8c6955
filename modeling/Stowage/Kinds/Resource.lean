import Stowage.Destination
import Stowage.Document.Patch
import Stowage.Kinds.ClusterObject
import Stowage.Span.Reader

/-! Resources: which resource of a component is to be held as a snapshot, and what was last done
about it. -/
namespace Stowage

structure ComponentRef where
  name : String
  «namespace» : String
deriving DecidableEq, Repr

structure ResourceRef where
  name : String
deriving DecidableEq, Repr

structure SnapshotTemplate where
  name : String
  tag : String
deriving DecidableEq, Repr

structure ResourceSpec where
  interval : Option String
  componentRef : ComponentRef
  resource : ResourceRef
  snapshotTemplate : SnapshotTemplate
deriving DecidableEq, Repr

structure ResourceStatus where
  observedGeneration : Option Int64 := none
  lastAppliedVersion : Option String := none
deriving DecidableEq, Repr

structure Resource where
  metadata : Metadata
  spec : ResourceSpec
  status : Option ResourceStatus

namespace ComponentRef

def document (c : ComponentRef) : Document :=
  .ofMembers [("name", .string c.name), ("namespace", .string c.namespace)]

def decoder : Decoder ComponentRef :=
  .record "struct ComponentRef" (mk <$> .required "name" .text <*> .required "namespace" .text)

end ComponentRef

namespace ResourceRef

def document (r : ResourceRef) : Document := .ofMembers [("name", .string r.name)]

def decoder : Decoder ResourceRef := .record "struct ResourceRef" (mk <$> .required "name" .text)

end ResourceRef

namespace SnapshotTemplate

def document (t : SnapshotTemplate) : Document :=
  .ofMembers [("name", .string t.name), ("tag", .string t.tag)]

def decoder : Decoder SnapshotTemplate :=
  .record "struct SnapshotTemplate" (mk <$> .required "name" .text <*> .required "tag" .text)

end SnapshotTemplate

namespace ResourceSpec

def document (s : ResourceSpec) : Document :=
  .ofPresent [
    ("interval", s.interval.map .string),
    ("componentRef", some s.componentRef.document),
    ("resource", some s.resource.document),
    ("snapshotTemplate", some s.snapshotTemplate.document)]

def decoder : Decoder ResourceSpec :=
  .record "struct ResourceSpec" (mk
    <$> .optional "interval" .text
    <*> .required "componentRef" ComponentRef.decoder
    <*> .required "resource" ResourceRef.decoder
    <*> .required "snapshotTemplate" SnapshotTemplate.decoder)

end ResourceSpec

namespace ResourceStatus

def document (s : ResourceStatus) : Document :=
  .ofPresent [
    ("observedGeneration", s.observedGeneration.map .int64),
    ("lastAppliedResourceVersion", s.lastAppliedVersion.map .string)]

def decoder : Decoder ResourceStatus :=
  .record "struct ResourceStatus" (mk
    <$> .optional "observedGeneration" .int64
    <*> .optional "lastAppliedResourceVersion" .text)

/-- The patch of a resource that changes one status into another, unless they are the same. -/
def patch? (before after : ResourceStatus) : Option Document :=
  (before.document.changes after.document).map fun changes => .ofMembers [("status", changes)]

end ResourceStatus

namespace Resource

def kind : String := "Resource"

def document (r : Resource) : Document :=
  kindDocument kind r.metadata r.spec.document (r.status.map ResourceStatus.document)

def decoder : Decoder Resource :=
  .record "struct Resource" (mk
    <$> .required "metadata" Metadata.decoder
    <*> .required "spec" ResourceSpec.decoder
    <*> .nullable "status" ResourceStatus.decoder)

instance : ClusterObject Resource where
  kind := kind
  plural := "resources"
  metadata := metadata
  document := document
  decoder := decoder

def key (r : Resource) : ObjectKey := r.metadata.key

def descriptorKey (r : Resource) : ObjectKey :=
  .ofComponent r.spec.componentRef.name r.spec.componentRef.namespace

def snapshotKey (r : Resource) : ObjectKey :=
  ⟨r.metadata.anyNamespace, r.spec.snapshotTemplate.name⟩

def destination (registryAddress : String) (r : Resource) : Destination :=
  .of registryAddress r.spec.snapshotTemplate.name r.spec.snapshotTemplate.tag

/-- The interval to the next pass; `fallback` where the resource does not carry a usable one. -/
def interval (fallback : Span) (r : Resource) : Span :=
  match r.spec.interval.map Span.read with
  | some (.ok span) => span
  | _ => fallback

/-- The link by which another object belongs to this one: a resource without name or uid has none. -/
def ownerReference? (r : Resource) : Option OwnerReference := do
  let name ← r.metadata.name
  let uid ← r.metadata.uid
  return { apiVersion, kind, name, uid, blockOwnerDeletion := none, controller := none }

end Resource
end Stowage
