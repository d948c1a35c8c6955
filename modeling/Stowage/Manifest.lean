import Stowage.Document.Canonical
import Stowage.Image

/-! Manifests: the blobs of an image, each by its type, digest and size, and its annotations. -/
namespace Stowage

structure Descriptor where
  mediaType : String
  digest : String
  size : Nat
deriving DecidableEq, Repr

namespace Descriptor

def ofData (mediaType : String) (data : Bytes) : Descriptor :=
  ⟨mediaType, Digest.sha256Text data, data.length⟩

def document (d : Descriptor) : Document :=
  .ofMembers [("mediaType", .string d.mediaType), ("digest", .string d.digest), ("size", .nat d.size)]

end Descriptor

structure Manifest where
  config : Descriptor
  layers : List Descriptor
  annotations : List (String × String)
deriving DecidableEq, Repr

namespace Manifest

def mediaType : String := "application/vnd.oci.image.manifest.v1+json"

/-- The layer is named by its own hash, whatever digest it was fetched under. -/
def ofImage (i : Image) : Manifest where
  config := .ofData Image.configMediaType i.configData
  layers := [.ofData i.layer.mediaType i.layer.data]
  annotations := i.annotations

def document (m : Manifest) : Document :=
  .ofMembers [
    ("schemaVersion", .nat 2),
    ("config", m.config.document),
    ("layers", .array (m.layers.map Descriptor.document)),
    ("annotations", .ofMembers (m.annotations.map fun (k, v) => (k, .string v)))]

def data (m : Manifest) : Bytes := Bytes.ofText m.document.canonical

def digest (m : Manifest) : String := Digest.sha256Text m.data

end Manifest
end Stowage
