import Stowage.Proofs.Pass.Turn

/-! What a pass has done once it went through: the transfers it made, the snapshot and the status that it
left, and when the resource is looked at again. -/
namespace Stowage

namespace Pass

variable {registry : String} {fallback : Span} {key : ObjectKey} {w : Setting} {q : Requeue}
  {o : Objects} {made : List Attempt}

/-- With resource and descriptor in the store, a pass goes through only by way of all the entries. -/
theorem Course.completed (h : Course registry fallback key w (.ok q) o made) {r : Resource}
    {c : ComponentDescriptor} (found : Table.get? key w.store.resources = some r)
    (described : Table.get? r.descriptorKey w.store.descriptors = some c) :
    q = requeue fallback r ∧
      made = deliveries (r.destination registry) w.outcomes (entriesFor r c) ∧
      o.resources = patched key r (settledStatus r c) w.store.resources ∧
      o.snapshots = recordedFor r (r.destination registry) (entriesFor r c) w.store.snapshots := by
  cases h with
  | gone absent =>
    rw [found] at absent
    cases absent
  | pending r' found' absent =>
    rw [found] at found'
    cases found'
    rw [described] at absent
    cases absent
  | settled r' c' status snapshots _ found' described' progress =>
    rw [found] at found'
    cases found'
    rw [described] at described'
    cases described'
    cases progress
    exact ⟨rfl, rfl, rfl, rfl⟩

end Pass

namespace Turn

open Pass (entriesFor)

/-- A pass that goes through transfers each entry of the resource once and in order. The snapshot then has
the reference of the destination, and the status the version of the last entry and the generation; what no
entry or no generation tells stays as it was. -/
theorem accomplished_of_ok (registry : String) (fallback : Span) (s : MemoryStore) (t : Turn)
    (q : Requeue) (r : Resource) (c : ComponentDescriptor)
    (ended : t.result registry fallback s = .ok q) (found : Table.get? t.key s.resources = some r)
    (described : Table.get? r.descriptorKey s.descriptors = some c) :
    (t.attempts registry fallback s).map (fun a => (a.destination, a.entry)) =
      (entriesFor r c).map (fun entry => ((r.destination registry).reference, entry)) ∧
    (entriesFor r c ≠ [] → ∃ p,
      Table.get? r.snapshotKey (t.store registry fallback s).snapshots = some p ∧
      p.spec.reference = (r.destination registry).snapshotRef) ∧
    (entriesFor r c = [] → (t.store registry fallback s).snapshots = s.snapshots) ∧
    (∃ r', Table.get? t.key (t.store registry fallback s).resources = some r' ∧
      (r'.status.getD {}).lastAppliedVersion =
        ((entriesFor r c).getLast?.map ResourceEntry.version).or (r.status.getD {}).lastAppliedVersion ∧
      (r'.status.getD {}).observedGeneration =
        r.metadata.generation.or (r.status.getD {}).observedGeneration) ∧
    q = .every (r.interval fallback) := by
  have course := t.course registry fallback s
  rw [ended] at course
  obtain ⟨next, attempts, resources, snapshots⟩ := course.completed found described
  replace snapshots : (t.store registry fallback s).snapshots = Pass.recordedFor r
    (r.destination registry) (entriesFor r c) s.snapshots := snapshots
  replace resources : (t.store registry fallback s).resources = Pass.patched t.key r
    (Pass.settledStatus r c) s.resources := resources
  refine ⟨?_, ?_, ?_, ?_, next⟩
  · rw [attempts, Pass.deliveries_asked]
  · intro matched
    obtain ⟨p, held, spec⟩ := Pass.get?_recorded r (r.destination registry) s.snapshots
    refine ⟨p, ?_, by rw [spec]⟩
    rw [snapshots, Pass.recordedFor, if_neg matched]
    exact held
  · intro unmatched
    rw [snapshots, unmatched, Pass.recordedFor_nil]
  · obtain ⟨status, held, settled⟩ := Pass.get?_patched t.key found (Pass.settledStatus r c)
    rw [Pass.settledStatus_eq] at settled
    rw [resources]
    exact ⟨_, held, by rw [settled], by rw [settled]⟩

/-- Both versions of the chart are transferred, and the later one is told of. -/
theorem accomplished_after_two_entries :
    Example.through.result "registry.local/" .zero Example.store = .ok (.after (.ofSeconds 600)) ∧
    Table.get? ⟨"shop", "web"⟩ Example.store.resources = some Example.resource ∧
    Table.get? Example.resource.descriptorKey Example.store.descriptors = some Example.component ∧
    (entriesFor Example.resource Example.component).map ResourceEntry.version = ["1.0", "1.1"] ∧
    (Example.through.attempts "registry.local/" .zero Example.store).map
        (fun a => (a.destination, a.entry)) =
      (entriesFor Example.resource Example.component).map (fun entry =>
        ((Example.resource.destination "registry.local/").reference, entry)) ∧
    (∃ p, Table.get? Example.resource.snapshotKey
        (Example.through.store "registry.local/" .zero Example.store).snapshots = some p ∧
      p.spec.reference = (Example.resource.destination "registry.local/").snapshotRef) ∧
    ∃ r', Table.get? ⟨"shop", "web"⟩
        (Example.through.store "registry.local/" .zero Example.store).resources = some r' ∧
      (r'.status.getD {}).lastAppliedVersion = some "1.1" ∧
      (r'.status.getD {}).observedGeneration = some 2 ∧
      Requeue.after (.ofSeconds 600) = .every (Example.resource.interval .zero) := by
  have ended : Example.through.result "registry.local/" .zero Example.store =
      .ok (.after (.ofSeconds 600)) := by decide +kernel
  have found : Table.get? ⟨"shop", "web"⟩ Example.store.resources = some Example.resource := rfl
  have described : Table.get? Example.resource.descriptorKey Example.store.descriptors =
      some Example.component := by
    have named : Example.resource.descriptorKey = ⟨"catalog", "acme.org-app"⟩ := by decide +kernel
    rw [named]
    rfl
  have versions : (entriesFor Example.resource Example.component).map ResourceEntry.version =
      ["1.0", "1.1"] := by decide +kernel
  have matched : entriesFor Example.resource Example.component ≠ [] := fun h => by
    rw [h] at versions
    cases versions
  have last : (entriesFor Example.resource Example.component).getLast?.map ResourceEntry.version =
      some "1.1" := by decide +kernel
  obtain ⟨asked, recorded, -, ⟨r', held, version, generation⟩, next⟩ :=
    accomplished_of_ok "registry.local/" .zero Example.store Example.through _ Example.resource
      Example.component ended found described
  rw [last] at version
  exact ⟨ended, found, described, versions, asked, recorded matched, r', held, version, generation, next⟩

end Turn
end Stowage
