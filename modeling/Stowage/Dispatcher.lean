import Stowage.Kinds.Resource
import Stowage.Kinds.Snapshot

/-! Which resources are to be looked at when something in the cluster changes: a resource whose
generation is new, and the owner of a snapshot that was touched. -/
namespace Stowage

inductive Change where
  /-- A resource was listed, added or modified. -/
  | resource (r : Resource)
  | resourceGone (key : ObjectKey)
  /-- A snapshot was listed, added, modified or removed. -/
  | snapshot (p : Snapshot)

structure Dispatcher where
  /-- The resources that are there. -/
  present : List ObjectKey := []
  /-- The last generation seen of each resource; it outlives the resource. -/
  generations : List (ObjectKey × Int64) := []
deriving DecidableEq, Repr

namespace Dispatcher

def owners (p : Snapshot) : List ObjectKey :=
  (p.metadata.ownerReferences.getD []).filterMap fun o =>
    if o.kind = Resource.kind ∧ o.apiVersion = apiVersion then
      some ⟨p.metadata.anyNamespace, o.name⟩
    else none

/-- Whether a resource is new or of a new generation; one without generation always is. -/
def isNews (d : Dispatcher) (r : Resource) : Bool :=
  match r.metadata.generation with
  | none => true
  | some generation => Table.get? r.key d.generations ≠ some generation

def step (d : Dispatcher) : Change → List ObjectKey × Dispatcher
  | .resource r =>
    let present := if d.present.contains r.key then d.present else r.key :: d.present
    let generations :=
      match r.metadata.generation with
      | some generation => Table.put r.key generation d.generations
      | none => d.generations
    (if d.isNews r then [r.key] else [], { present, generations })
  | .resourceGone key => ([], { d with present := d.present.filter (· ≠ key) })
  | .snapshot p => ((owners p).filter d.present.contains, d)

end Dispatcher
end Stowage
