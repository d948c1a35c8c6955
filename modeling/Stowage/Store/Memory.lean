import Stowage.Document.Patch
import Stowage.Store.Call

/-! A store in memory. It notes the calls it gets, and fails those of an operation for which a failure
is set. -/
namespace Stowage

structure MemoryStore where
  resources : List (ObjectKey × Resource) := []
  descriptors : List (ObjectKey × ComponentDescriptor) := []
  snapshots : List (ObjectKey × Snapshot) := []
  /-- The patches received, whether they could be applied or not. -/
  patches : List (ObjectKey × Document) := []
  /-- The operations called, the last one first. -/
  log : List Operation := []
  failures : List (Operation × String) := []

namespace MemoryStore

variable (s : MemoryStore)

def insertResource (r : Resource) : MemoryStore :=
  { s with resources := Table.put r.key r s.resources }

def insertDescriptor (c : ComponentDescriptor) : MemoryStore :=
  { s with descriptors := Table.put c.metadata.key c s.descriptors }

def insertSnapshot (p : Snapshot) : MemoryStore :=
  { s with snapshots := Table.put p.key p s.snapshots }

def removeDescriptor (key : ObjectKey) : MemoryStore :=
  { s with descriptors := Table.erase key s.descriptors }

/-- Calls of the operation fail from now on; the last reason set counts. -/
def failOn (operation : Operation) (reason : String) : MemoryStore :=
  { s with failures := (operation, reason) :: s.failures }

def clearFailures : MemoryStore := { s with failures := [] }

def calls (operation : Operation) : Nat := s.log.count operation

/-- The status that a patch leads to. -/
def patchedStatus (r : Resource) (patch : Document) : Except Misfit ResourceStatus :=
  ResourceStatus.decoder.read ((r.status.getD {}).document.mergeAll (patch.get? "status"))

def perform : (c : Call) → c.Answer × MemoryStore
  | .getResource key => (.ok (Table.get? key s.resources), s)
  | .getDescriptor key => (.ok (Table.get? key s.descriptors), s)
  | .getSnapshot key => (.ok (Table.get? key s.snapshots), s)
  | .createSnapshot p =>
    match Table.get? p.key s.snapshots with
    | some _ => (.error (.alreadyExists Snapshot.kind p.key), s)
    | none => (.ok p, s.insertSnapshot p)
  | .updateSnapshot key spec =>
    match Table.get? key s.snapshots with
    | none => (.error (.notFound Snapshot.kind key), s)
    | some p =>
      let p := { p with spec }
      (.ok p, { s with snapshots := Table.put key p s.snapshots })
  | .patchStatus key patch =>
    let s := { s with patches := s.patches ++ [(key, patch)] }
    match Table.get? key s.resources with
    | none => (.error (.notFound Resource.kind key), s)
    | some r =>
      match patchedStatus r patch with
      | .error misfit => (.error (.backend Resource.kind key misfit.message), s)
      | .ok status =>
        (.ok (), { s with resources := Table.put key { r with status := some status } s.resources })

/-- Notes a call, and performs it unless its operation is set to fail. -/
def answer (c : Call) : c.Answer × MemoryStore :=
  let s := { s with log := c.operation :: s.log }
  match s.failures.lookup c.operation with
  | some reason => (.error (.backend c.kind c.key reason), s)
  | none => s.perform c

end MemoryStore
end Stowage
