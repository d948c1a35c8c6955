import Stowage.Access
import Stowage.Kinds.ClusterObject

/-! Component descriptors: the catalog of the versioned resources of a component. -/
namespace Stowage

structure ResourceEntry where
  name : String
  version : String
  type : Option String := none
  access : Document := .null

structure ComponentDescriptorSpec where
  version : Option String
  resources : List ResourceEntry

structure ComponentDescriptor where
  metadata : Metadata
  spec : ComponentDescriptorSpec

namespace ResourceEntry

def document (e : ResourceEntry) : Document :=
  .ofPresent [
    ("name", some (.string e.name)),
    ("version", some (.string e.version)),
    ("type", e.type.map .string),
    ("access", some e.access)]

def decoder : Decoder ResourceEntry :=
  .record "struct ResourceEntry" (mk
    <$> .required "name" .text
    <*> .required "version" .text
    <*> .optional "type" .text
    <*> .defaulted "access" .any .null)

end ResourceEntry

namespace ComponentDescriptorSpec

def document (s : ComponentDescriptorSpec) : Document :=
  .ofPresent [
    ("version", s.version.map .string),
    ("resources", some (.array (s.resources.map ResourceEntry.document)))]

def decoder : Decoder ComponentDescriptorSpec :=
  .record "struct ComponentDescriptorSpec" (mk
    <$> .optional "version" .text
    <*> .defaulted "resources" (.list ResourceEntry.decoder) [])

end ComponentDescriptorSpec

namespace ComponentDescriptor

def kind : String := "ComponentDescriptor"

def document (c : ComponentDescriptor) : Document :=
  kindDocument kind c.metadata c.spec.document none

def decoder : Decoder ComponentDescriptor :=
  .record "struct ComponentDescriptor" (mk
    <$> .required "metadata" Metadata.decoder
    <*> .required "spec" ComponentDescriptorSpec.decoder)

instance : ClusterObject ComponentDescriptor where
  kind := kind
  plural := "componentdescriptors"
  metadata := metadata
  document := document
  decoder := decoder

/-- The entries of one name, in order; all of them where there are several. -/
def entriesNamed (name : String) (c : ComponentDescriptor) : List ResourceEntry :=
  c.spec.resources.filter (·.name = name)

end ComponentDescriptor
end Stowage
