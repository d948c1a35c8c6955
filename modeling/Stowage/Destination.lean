/-! Where a snapshot is published: under the root of all snapshots in the local registry. -/
namespace Stowage

def trimSlashes (address : String) : String :=
  String.ofList (address.toList.reverse.dropWhile (· = '/')).reverse

structure Destination where
  registry : String
  name : String
  tag : String
deriving DecidableEq, Repr

namespace Destination

def of (address name tag : String) : Destination := ⟨trimSlashes address, name, tag⟩

/-- Name and tag, as a Snapshot records them. -/
def snapshotRef (d : Destination) : String := d.name ++ ":" ++ d.tag

def root (registry : String) : String := registry ++ "/snapshots/"

def reference (d : Destination) : String := root d.registry ++ d.snapshotRef

example : (of "registry.local:5000//" "app" "v1").reference = "registry.local:5000/snapshots/app:v1" := by
  decide +kernel

end Destination
end Stowage
