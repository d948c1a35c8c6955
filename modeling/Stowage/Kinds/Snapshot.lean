import Stowage.Kinds.ClusterObject

/-! Snapshots: where the artifact of a resource now lies in the local registry. -/
namespace Stowage

structure SnapshotSpec where
  reference : String
deriving DecidableEq, Repr

structure Snapshot where
  metadata : Metadata
  spec : SnapshotSpec

namespace SnapshotSpec

def document (s : SnapshotSpec) : Document := .ofMembers [("ref", .string s.reference)]

def decoder : Decoder SnapshotSpec := .record "struct SnapshotSpec" (mk <$> .required "ref" .text)

end SnapshotSpec

namespace Snapshot

def kind : String := "Snapshot"

def document (s : Snapshot) : Document := kindDocument kind s.metadata s.spec.document none

def decoder : Decoder Snapshot :=
  .record "struct Snapshot" (mk
    <$> .required "metadata" Metadata.decoder
    <*> .required "spec" SnapshotSpec.decoder)

instance : ClusterObject Snapshot where
  kind := kind
  plural := "snapshots"
  metadata := metadata
  document := document
  decoder := decoder

def key (s : Snapshot) : ObjectKey := s.metadata.key

end Snapshot
end Stowage
