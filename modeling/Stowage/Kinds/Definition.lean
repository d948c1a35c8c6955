import Stowage.Kinds.ComponentDescriptor
import Stowage.Kinds.Resource
import Stowage.Kinds.Snapshot

/-! The definitions by which a cluster learns of the three kinds: their names, and the schemas of what
they hold. -/
namespace Stowage

namespace Schema

def texts (ts : List String) : Document := .array (ts.map .string)

def described (description : Option String) (members : List (String × Document)) : Document :=
  .ofPresent (("description", description.map .string) :: members.map fun (k, d) => (k, some d))

def text : Document := .ofMembers [("type", .string "string")]

def textAbout (description : String) : Document :=
  described (some description) [("type", .string "string")]

def nullable (schema : Document) : Document :=
  .ofMembers (("nullable", .bool true) :: schema.members)

def int64 : Document := .ofMembers [("format", .string "int64"), ("type", .string "integer")]

def object (description : Option String) (properties : List (String × Document))
    (required : List String) : Document :=
  described description ([("properties", .ofMembers properties), ("type", .string "object")] ++
    if required.isEmpty then [] else [("required", texts required)])

def list (items : Document) : Document :=
  .ofMembers [("default", .array []), ("items", items), ("type", .string "array")]

def untyped (description : String) : Document :=
  described (some description)
    [("type", .string "object"), ("x-kubernetes-preserve-unknown-fields", .bool true)]

end Schema

structure PrinterColumn where
  name : String
  type : String
  jsonPath : String
deriving DecidableEq, Repr

def PrinterColumn.document (c : PrinterColumn) : Document :=
  .ofMembers [("jsonPath", .string c.jsonPath), ("name", .string c.name), ("type", .string c.type)]

structure KindDefinition where
  kind : String
  plural : String
  singular : String
  shortName : String
  columns : List PrinterColumn
  spec : Document
  /-- The schema of the status, of kinds that have one. -/
  status : Option Document

namespace KindDefinition

def name (d : KindDefinition) : String := d.plural ++ "." ++ apiGroup

def schema (d : KindDefinition) : Document :=
  .ofMembers [
    ("description", .string s!"Auto-generated derived type for {d.kind}Spec via `CustomResource`"),
    ("properties", .ofPresent [("spec", some d.spec), ("status", d.status)]),
    ("required", Schema.texts ["spec"]),
    ("title", .string d.kind),
    ("type", .string "object")]

def version (d : KindDefinition) : Document :=
  .ofMembers [
    ("additionalPrinterColumns", .array (d.columns.map PrinterColumn.document)),
    ("name", .string apiGroupVersion),
    ("schema", .ofMembers [("openAPIV3Schema", d.schema)]),
    ("served", .bool true),
    ("storage", .bool true),
    ("subresources", .ofPresent [("status", d.status.map fun _ => .object [])])]

def names (d : KindDefinition) : Document :=
  .ofMembers [
    ("categories", .array []),
    ("kind", .string d.kind),
    ("plural", .string d.plural),
    ("shortNames", Schema.texts [d.shortName]),
    ("singular", .string d.singular)]

def document (d : KindDefinition) : Document :=
  .ofMembers [
    ("apiVersion", .string "apiextensions.k8s.io/v1"),
    ("kind", .string "CustomResourceDefinition"),
    ("metadata", .ofMembers [("name", .string d.name)]),
    ("spec", .ofMembers [
      ("group", .string apiGroup),
      ("names", d.names),
      ("scope", .string "Namespaced"),
      ("versions", .array [d.version])])]

end KindDefinition

def ResourceEntry.schema : Document :=
  Schema.object (some "One versioned resource of a component and how to reach it.")
    [("access", Schema.untyped "Untyped access document; interpret through [`ResourceEntry::access`]."),
     ("name", Schema.text),
     ("type", Schema.nullable Schema.text),
     ("version", Schema.text)]
    ["name", "version"]

def ComponentDescriptor.definition : KindDefinition where
  kind := ComponentDescriptor.kind
  plural := ClusterObject.plural ComponentDescriptor
  singular := "componentdescriptor"
  shortName := "cd"
  columns := []
  spec :=
    Schema.object
      (some "Resolved component descriptor, as published by the component-descriptor provider.")
      [("resources", Schema.list ResourceEntry.schema), ("version", Schema.nullable Schema.text)] []
  status := none

def ResourceSpec.schema : Document :=
  Schema.object
    (some "Desired state: snapshot one named resource of a component into the local registry.")
    [("componentRef",
      Schema.object none
        [("name", Schema.textAbout "Component name, e.g. `github.com/acme/app`."),
         ("namespace", Schema.text)]
        ["name", "namespace"]),
     ("interval",
      Schema.nullable (Schema.textAbout
        "Re-drive interval, e.g. `10m`. Falls back to the controller default when unset.")),
     ("resource",
      Schema.object none
        [("name", Schema.textAbout "Entry name within the component descriptor.")] ["name"]),
     ("snapshotTemplate",
      Schema.object none [("name", Schema.text), ("tag", Schema.text)] ["name", "tag"])]
    ["componentRef", "resource", "snapshotTemplate"]

def ResourceStatus.schema : Document :=
  Schema.nullable <| Schema.object none
    [("lastAppliedResourceVersion", Schema.nullable Schema.text),
     ("observedGeneration", Schema.nullable Schema.int64)] []

def Resource.definition : KindDefinition where
  kind := Resource.kind
  plural := ClusterObject.plural Resource
  singular := "resource"
  shortName := "ocmres"
  columns := [
    ⟨"Generation", "integer", ".status.observedGeneration"⟩,
    ⟨"Version", "string", ".status.lastAppliedResourceVersion"⟩]
  spec := ResourceSpec.schema
  status := some ResourceStatus.schema

def Snapshot.definition : KindDefinition where
  kind := Snapshot.kind
  plural := ClusterObject.plural Snapshot
  singular := "snapshot"
  shortName := "snap"
  columns := [⟨"Ref", "string", ".spec.ref"⟩]
  spec :=
    Schema.object (some "Projection of the last successful transfer for one Resource.")
      [("ref", Schema.textAbout
        "Artifact location relative to the local registry's snapshots root, e.g. `app:v1`.")]
      ["ref"]
  status := none

/-- All kinds, in the order of their names. -/
def kindDefinitions : List KindDefinition :=
  [ComponentDescriptor.definition, Resource.definition, Snapshot.definition]

end Stowage
