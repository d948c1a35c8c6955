import Stowage.Proofs.StatusPatch

/-! What the store in memory holds, and what its calls come to: a call is noted, and then fails with the
reason set for it or is performed. -/
namespace Stowage

/-- The objects of a store, apart from what it notes of its calls. -/
structure Objects where
  resources : List (ObjectKey × Resource)
  descriptors : List (ObjectKey × ComponentDescriptor)
  snapshots : List (ObjectKey × Snapshot)

namespace MemoryStore

def objects (s : MemoryStore) : Objects := ⟨s.resources, s.descriptors, s.snapshots⟩

/-- The error that a call is set to fail with. -/
def Injects (failures : List (Operation × String)) (c : Call) (e : StoreError) : Prop :=
  ∃ reason, failures.lookup c.operation = some reason ∧ e = .backend c.kind c.key reason

theorem not_injects_nil (c : Call) (e : StoreError) : ¬ Injects [] c e := by
  rintro ⟨reason, set, _⟩
  cases set

def noted (s : MemoryStore) (c : Call) : MemoryStore := { s with log := c.operation :: s.log }

@[simp] theorem noted_resources (s : MemoryStore) (c : Call) :
    (s.noted c).resources = s.resources := rfl

@[simp] theorem noted_descriptors (s : MemoryStore) (c : Call) :
    (s.noted c).descriptors = s.descriptors := rfl

@[simp] theorem noted_snapshots (s : MemoryStore) (c : Call) :
    (s.noted c).snapshots = s.snapshots := rfl

@[simp] theorem noted_failures (s : MemoryStore) (c : Call) :
    (s.noted c).failures = s.failures := rfl

theorem answer_cases (s : MemoryStore) (c : Call) :
    (∃ e, Injects s.failures c e ∧ s.answer c = (.error e, s.noted c)) ∨
      s.answer c = (s.noted c).perform c := by
  simp only [answer]
  cases set : s.failures.lookup c.operation with
  | none => exact .inr rfl
  | some reason => exact .inl ⟨_, ⟨reason, set, rfl⟩, rfl⟩

/-- A call is noted, whatever comes of it. -/
theorem calls_answer (s : MemoryStore) (c : Call) (operation : Operation) :
    (s.answer c).2.calls operation = s.calls operation + if c.operation = operation then 1 else 0 := by
  have log : (s.answer c).2.log = c.operation :: s.log := by
    rcases s.answer_cases c with ⟨e, -, failed⟩ | performed
    · rw [failed]
      rfl
    · rw [performed]
      cases c <;> simp only [perform]
      case getResource | getDescriptor | getSnapshot => rfl
      all_goals split
      all_goals first | rfl | (split <;> rfl)
  rw [calls, log, List.count_cons]
  simp [calls]

variable {s : MemoryStore}

theorem answer_createSnapshot {p : Snapshot} (absent : Table.get? p.key s.snapshots = none) :
    (∃ e, Injects s.failures (.createSnapshot p) e ∧
      s.answer (.createSnapshot p) = (.error e, s.noted (.createSnapshot p))) ∨
    s.answer (.createSnapshot p) = (.ok p,
      { s.noted (.createSnapshot p) with snapshots := Table.put p.key p s.snapshots }) := by
  refine (s.answer_cases _).imp_right fun h => ?_
  simp only [h, perform, noted_snapshots, absent, insertSnapshot]

theorem answer_updateSnapshot {key : ObjectKey} {p : Snapshot}
    (found : Table.get? key s.snapshots = some p) (spec : SnapshotSpec) :
    (∃ e, Injects s.failures (.updateSnapshot key spec) e ∧
      s.answer (.updateSnapshot key spec) = (.error e, s.noted (.updateSnapshot key spec))) ∨
    s.answer (.updateSnapshot key spec) = (.ok { p with spec },
      { s.noted (.updateSnapshot key spec) with
        snapshots := Table.put key { p with spec } s.snapshots }) := by
  refine (s.answer_cases _).imp_right fun h => ?_
  simp only [h, perform, noted_snapshots, found]

/-- A status patch that was made for the stored resource is applied. -/
theorem answer_patchStatus {key : ObjectKey} {r : Resource} {before after : ResourceStatus}
    {patch : Document} (found : Table.get? key s.resources = some r)
    (loaded : r.status.getD {} = before) (changed : before.patch? after = some patch) :
    (∃ e, Injects s.failures (.patchStatus key patch) e ∧
      s.answer (.patchStatus key patch) = (.error e, s.noted (.patchStatus key patch))) ∨
    s.answer (.patchStatus key patch) = (.ok (),
      { s.noted (.patchStatus key patch) with
        patches := s.patches ++ [(key, patch)]
        resources := Table.put key { r with status := some after } s.resources }) := by
  refine (s.answer_cases _).imp_right fun h => ?_
  simp only [h, perform, noted_resources, found, ResourceStatus.patchedStatus_eq changed loaded]
  rfl

end MemoryStore
end Stowage
