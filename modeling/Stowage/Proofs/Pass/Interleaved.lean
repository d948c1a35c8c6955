import Stowage.Proofs.Pass.Events
import Stowage.Proofs.Thread

/-! Passes over different resources that run at the same time. Each touches its own resource and the
snapshot of that resource and otherwise only reads descriptors, so that none notices the others. -/
namespace Stowage

namespace Pass

variable {registry : String} {fallback : Span} {key other : ObjectKey}

/-- What a pass asks of a store with such resources. -/
inductive Belongs (table : List (ObjectKey × Resource)) (key : ObjectKey) : Demand → Prop
  | look {q : Demand} (looks : Looks key q) : Belongs table key q
  | handle {q : Demand} {r : Resource} {d : Destination} (found : Table.get? key table = some r)
      (handles : Handles r d q) : Belongs table key q
  | patch (patch : Document) : Belongs table key (.call (.patchStatus key patch))

theorem Shape.belongs {w : Setting} {result : Except Failure Requeue} {o : Objects}
    {history : List Event} (h : Shape registry key w result o history) :
    ∀ e ∈ history, Belongs w.store.resources key e.1 := by
  cases h with
  | idle looks => exact fun e member => .look (looks e member)
  | busy r c v before after found described alike outcomes first last went left between =>
    subst between
    rw [settle_history]
    simp only [List.forall_mem_append]
    refine ⟨⟨fun e member => .look (first e member), fun e member => ?_, fun e member => ?_⟩,
      fun e member => .look (last e member)⟩
    · exact .handle found ((applyEntries_asks ..).history Setting.answer v e member)
    · split at member
      · cases member
      · obtain ⟨patch, asked⟩ := (patchStatus_asks ..).history Setting.answer _ e member
        rw [asked]
        exact .patch patch

/-- The slots that a pass has to do with: that of its resource, those of snapshots of the resource, and
descriptors that it only reads. -/
theorem Belongs.slot {table : List (ObjectKey × Resource)} {c : Call}
    (h : Belongs table key (.call c)) :
    c.slot = .resource key ∨ (c.reads ∧ ∃ k, c.slot = .descriptor k) ∨
      ∃ r, Table.get? key table = some r ∧ c.slot = .snapshot r.snapshotKey := by
  cases h with
  | look looks =>
    cases looks with
    | resource => exact .inl rfl
    | descriptor k => exact .inr (.inl ⟨rfl, k, rfl⟩)
  | handle found handles =>
    obtain _ | writes := handles
    cases writes with
    | get | create | update => exact .inr (.inr ⟨_, found, rfl⟩)
  | patch => exact .inl rfl

theorem Belongs.apart {table : List (ObjectKey × Resource)} {q q' : Demand} (different : key ≠ other)
    (snapshots : ∀ r r', Table.get? key table = some r → Table.get? other table = some r' →
      r.snapshotKey ≠ r'.snapshotKey)
    (h : Belongs table key q) (h' : Belongs table other q') : q.Apart q' := by
  cases q with
  | transfer | record => trivial
  | call c =>
    cases q' with
    | transfer | record => trivial
    | call c' =>
      intro same
      rcases h.slot with slot | ⟨reads, k, slot⟩ | ⟨r, found, slot⟩ <;>
        rcases h'.slot with slot' | ⟨reads', k', slot'⟩ | ⟨r', found', slot'⟩ <;>
        simp only [slot, slot', Slot.resource.injEq, Slot.snapshot.injEq, reduceCtorEq] at same
      · exact absurd same different
      · exact ⟨reads, reads'⟩
      · exact absurd same (snapshots r r' found found')

end Pass

namespace Turn

variable (registry : String) (fallback : Span) (s : MemoryStore)

def within (key : ObjectKey) (outcomes : Nat → Except TransferFault TransferReport) : Turn :=
  ⟨key, s.failures, outcomes⟩

def thread (t : Turn) : Thread (Except Failure Requeue) where
  rest := Pass.run registry fallback t.key
  outcomes := t.outcomes

theorem outcome_thread {key : ObjectKey} {outcomes : Nat → Except TransferFault TransferReport}
    {s' : MemoryStore} (same : s'.failures = s.failures) :
    ((within s key outcomes).thread registry fallback).outcome s' =
      (Pass.run registry fallback key).run Setting.answer ((within s key outcomes).setting s') := by
  rw [setting, within, ← same]
  rfl

variable {n : Nat} (key : Fin n → ObjectKey)
  (outcomes : Fin n → Nat → Except TransferFault TransferReport)

def together : Scene n (Except Failure Requeue) where
  store := s
  threads i := (within s (key i) (outcomes i)).thread registry fallback

/-- One after another, the threads do what the passes do. -/
theorem after_together (order : List (Fin n)) {s' : MemoryStore} (same : s'.failures = s.failures) :
    order.foldl (fun s' i =>
        (((together registry fallback s key outcomes).threads i).outcome s').2.store) s' =
      after registry fallback (order.map fun i => within s (key i) (outcomes i)) s' := by
  induction order generalizing s' with
  | nil => rfl
  | cons i order ih =>
    have first : (((together registry fallback s key outcomes).threads i).outcome s').2.store =
        (within s (key i) (outcomes i)).store registry fallback s' := by
      rw [together, outcome_thread registry fallback s same]
      rfl
    rw [List.foldl_cons, List.map_cons, after_cons, ← first]
    exact ih ((Thread.failures_outcome _).trans same)

variable {key} in
theorem together_apart (distinct : key.Injective)
    (snapshots : ∀ i j r r', i ≠ j → Table.get? (key i) s.resources = some r →
      Table.get? (key j) s.resources = some r' → r.snapshotKey ≠ r'.snapshotKey) :
    (together registry fallback s key outcomes).Apart := by
  intro i j different e member e' member'
  have belongs := ((within s (key i) (outcomes i)).shape registry fallback s).belongs e member
  have belongs' := ((within s (key j) (outcomes j)).shape registry fallback s).belongs e' member'
  exact belongs.apart (distinct.ne different) (fun r r' => snapshots i j r r' different) belongs'

/-- Passes over different resources with different snapshots do not notice each other. In whatever order
they advance, each asks and is answered what it is by itself, one demand for each of its turns, and comes to
the same result; once all of them are over, the objects are those after the passes one by one, in any order.
-/
theorem together_as_alone (distinct : key.Injective)
    (snapshots : ∀ i j r r', i ≠ j → Table.get? (key i) s.resources = some r →
      Table.get? (key j) s.resources = some r' → r.snapshotKey ≠ r'.snapshotKey)
    (schedule : List (Fin n)) :
    (∀ i, (((together registry fallback s key outcomes).play schedule).threads i).history =
      ((within s (key i) (outcomes i)).events registry fallback s).take (schedule.count i)) ∧
    (∀ i, (((together registry fallback s key outcomes).play schedule).threads i).result?.isSome ↔
      ((within s (key i) (outcomes i)).events registry fallback s).length ≤ schedule.count i) ∧
    (∀ i result,
      (((together registry fallback s key outcomes).play schedule).threads i).result? = some result →
      result = (within s (key i) (outcomes i)).result registry fallback s ∧
      Stowage.attempts (((together registry fallback s key outcomes).play schedule).threads i).history =
        (within s (key i) (outcomes i)).attempts registry fallback s) ∧
    ((∀ i, (((together registry fallback s key outcomes).play schedule).threads i).result?.isSome) →
      ∀ order : List (Fin n), order.Perm (List.finRange n) →
        ((together registry fallback s key outcomes).play schedule).store.objects =
          (after registry fallback (order.map fun i => within s (key i) (outcomes i)) s).objects) := by
  have apart := together_apart registry fallback s outcomes distinct snapshots
  -- What a thread comes to is read off the schedule that has only its own turns.
  have alone (i : Fin n) := Scene.play_replicate (schedule.count i)
    (together registry fallback s key outcomes) i
  have history (i : Fin n) :
      (((together registry fallback s key outcomes).play schedule).threads i).history =
        ((within s (key i) (outcomes i)).events registry fallback s).take (schedule.count i) := by
    rw [apart.threads_play, (alone i).2.2]
    rfl
  have finished (i : Fin n) :
      (((together registry fallback s key outcomes).play schedule).threads i).result?.isSome ↔
        ((within s (key i) (outcomes i)).events registry fallback s).length ≤ schedule.count i := by
    rw [apart.threads_play, Thread.isSome_result_iff, (alone i).2.1, List.drop_eq_nil_iff]
    rfl
  refine ⟨history, finished, ?_, ?_⟩
  · intro i result came
    have whole := (finished i).mp (by rw [came]; rfl)
    refine ⟨?_, ?_⟩
    · rw [apart.threads_play] at came
      have ends := (alone i).1
      rw [Thread.outcome_of_result came] at ends
      exact congrArg Prod.fst ends
    · rw [history, List.take_of_length_le whole, attempts_events]
  · intro all order perm
    have alike := apart.store_play order schedule (perm.nodup_iff.mpr (List.nodup_finRange n))
      (fun i _ => perm.mem_iff.mpr (List.mem_finRange i)) (fun i _ => all i)
    rw [alike.objects, ← after_together registry fallback s key outcomes order rfl]
    rfl

end Turn

namespace Example

def neighbour : Resource where
  metadata := { resource.metadata with name := some "api" }
  spec := { resource.spec with snapshotTemplate := ⟨"api", "stable"⟩ }
  status := none

def shared : MemoryStore :=
  { store with resources := [(⟨"shop", "api"⟩, neighbour), (⟨"shop", "web"⟩, resource)] }

def keys (i : Fin 2) : ObjectKey := if i = 0 then ⟨"shop", "api"⟩ else ⟨"shop", "web"⟩

/-- The second of the passes fails at its second transfer. -/
def scripts (i : Fin 2) : Nat → Except TransferFault TransferReport :=
  if i = 0 then through.outcomes else broken.outcomes

end Example

namespace Turn

open Example (shared keys scripts)

/-- Two passes in turns, of which one fails: the other one does not notice. -/
theorem two_together_as_alone :
    keys.Injective ∧
    (∀ i j r r', i ≠ j → Table.get? (keys i) shared.resources = some r →
      Table.get? (keys j) shared.resources = some r' → r.snapshotKey ≠ r'.snapshotKey) ∧
    (∀ i, (((together "registry.local/" .zero shared keys scripts).play
      (List.replicate 11 [1, 0]).flatten).threads i).result?.isSome) ∧
    (within shared (keys 0) (scripts 0)).result "registry.local/" .zero shared =
      .ok (.after (.ofSeconds 600)) ∧
    (((together "registry.local/" .zero shared keys scripts).play
      (List.replicate 11 [1, 0]).flatten).threads 0).result? =
        some (.ok (.after (.ofSeconds 600))) ∧
    ((together "registry.local/" .zero shared keys scripts).play
      (List.replicate 11 [1, 0]).flatten).store.objects =
        (after "registry.local/" .zero
          ([0, 1].map fun i => within shared (keys i) (scripts i)) shared).objects ∧
    ((together "registry.local/" .zero shared keys scripts).play
      (List.replicate 11 [1, 0]).flatten).store.objects =
        (after "registry.local/" .zero
          ([1, 0].map fun i => within shared (keys i) (scripts i)) shared).objects := by
  have distinct : keys.Injective := by
    have keys_inj : ∀ i j, keys i = keys j → i = j := by decide +kernel
    exact fun i j => keys_inj i j
  have named : ∀ i r, Table.get? (keys i) shared.resources = some r → r.snapshotKey = keys i := by
    intro i r found
    obtain rfl | rfl : i = 0 ∨ i = 1 := by omega
    all_goals
      cases found
      decide +kernel
  have snapshots : ∀ i j r r', i ≠ j → Table.get? (keys i) shared.resources = some r →
      Table.get? (keys j) shared.resources = some r' → r.snapshotKey ≠ r'.snapshotKey := by
    intro i j r r' different found found'
    rw [named i r found, named j r' found']
    exact distinct.ne different
  have enough : ∀ i, ((within shared (keys i) (scripts i)).events "registry.local/" .zero shared).length ≤
      (List.replicate 11 [1, 0]).flatten.count i := by decide +kernel
  have result : (within shared (keys 0) (scripts 0)).result "registry.local/" .zero shared =
      .ok (.after (.ofSeconds 600)) := by decide +kernel
  obtain ⟨-, finished, same, serial⟩ := together_as_alone "registry.local/" .zero shared keys scripts distinct
    snapshots (List.replicate 11 [1, 0]).flatten
  have ended := fun i => (finished i).mpr (enough i)
  obtain ⟨came, first⟩ := Option.isSome_iff_exists.mp (ended 0)
  refine ⟨distinct, snapshots, ended, result, ?_, serial ended [0, 1] (by decide),
    serial ended [1, 0] (by decide)⟩
  rw [first, (same 0 came first).1, result]

end Turn
end Stowage
