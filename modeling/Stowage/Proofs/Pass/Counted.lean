import Mathlib.Data.Finset.Card
import Stowage.Proofs.Pass.Frame

/-! What the counters show. A counter is raised where something is done and not where it is tried, so after any
passes it agrees with the results of the passes, the calls that the store noted, and the snapshots that are
new in it. -/
namespace Stowage

namespace Event

def records (m : Meter) : Event → Bool
  | ⟨.record m', _⟩ => m' = m
  | _ => false

def calls (operation : Operation) : Event → Bool
  | ⟨.call c, _⟩ => c.operation = operation
  | _ => false

/-- The store could be asked for the descriptor, and has none. -/
def lacks (key : ObjectKey) : Event → Bool
  | ⟨.call (.getDescriptor k), .ok none⟩ => k = key
  | _ => false

def updates : Event → Bool
  | ⟨.call (.updateSnapshot ..), .ok _⟩ => true
  | _ => false

end Event

def counter (m : Meter) (h : List Event) : Nat := h.countP (Event.records m)

/-- The history is one in which a resource was found, but no descriptor for it. -/
def waits (h : List Event) : Bool := (loaded h).any fun r => h.any (Event.lacks r.descriptorKey)

theorem counter_append (m : Meter) (h h' : List Event) :
    counter m (h ++ h') = counter m h + counter m h' := List.countP_append

theorem waits_append {h asked : List Event} (unloaded : loaded asked = [])
    (asksNone : ∀ key, asked.any (Event.lacks key) = false) : waits (h ++ asked) = waits h := by
  simp only [waits, loaded_append, unloaded, List.append_nil, List.any_append, asksNone, Bool.or_false]

theorem waits_of_lacks {h : List Event} {r : Resource} {key : ObjectKey} (named : r.descriptorKey = key)
    (found : r ∈ loaded h) (lacked : ⟨.call (.getDescriptor key), .ok none⟩ ∈ h) : waits h = true := by
  subst named
  rw [waits, List.any_eq_true]
  refine ⟨r, found, List.any_eq_true.mpr ⟨_, lacked, ?_⟩⟩
  exact decide_eq_true rfl

namespace Pass

/-- What is asked to settle a resource: nothing is looked up but the snapshot. -/
inductive Settles : Demand → Prop
  | transfer (destination : String) (entry : ResourceEntry) : Settles (.transfer destination entry)
  | getSnapshot (key : ObjectKey) : Settles (.call (.getSnapshot key))
  | createSnapshot (p : Snapshot) : Settles (.call (.createSnapshot p))
  | updateSnapshot (key : ObjectKey) (spec : SnapshotSpec) : Settles (.call (.updateSnapshot key spec))
  | patchStatus (key : ObjectKey) (patch : Document) : Settles (.call (.patchStatus key patch))
  | created : Settles (.record .snapshotsCreated)
  | updated : Settles (.record .snapshotsUpdated)

/-- What is added to a history while a resource is settled. The two counters of snapshots are raised once for
each snapshot written. -/
structure Addition (asked : List Event) : Prop where
  settles : ∀ e ∈ asked, Settles e.1
  created : counter .snapshotsCreated asked = (creations asked).length
  updated : counter .snapshotsUpdated asked = asked.countP Event.updates

namespace Addition

theorem nil : Addition [] := ⟨by simp, rfl, rfl⟩

theorem append {asked asked' : List Event} (first : Addition asked) (second : Addition asked') :
    Addition (asked ++ asked') where
  settles := List.forall_mem_append.mpr ⟨first.settles, second.settles⟩
  created := by
    rw [counter_append, creations_append, List.length_append, first.created, second.created]
  updated := by
    rw [counter_append, List.countP_append, first.updated, second.updated]

theorem countP_eq_zero {asked : List Event} (added : Addition asked) {p : Event → Bool}
    (other : ∀ e : Event, Settles e.1 → p e = false) : asked.countP p = 0 := by
  rw [List.countP_eq_zero]
  intro e member
  simp [other e (added.settles e member)]

theorem waits_append {h asked : List Event} (added : Addition asked) : waits (h ++ asked) = waits h := by
  apply Stowage.waits_append
  · rw [loaded, List.filterMap_eq_nil_iff]
    rintro ⟨q, a⟩ member
    cases added.settles _ member <;> rfl
  · intro key
    rw [List.any_eq_false]
    rintro ⟨q, a⟩ member
    cases added.settles _ member <;> simp [Event.lacks]

end Addition

def Adds {α : Type} (d : Demands α) : Prop :=
  ∀ h, Addition h → d.Upholds (fun _ _ => True) (fun h _ => Addition h) h

theorem Adds.bind {α β : Type} {d : Demands α} {f : α → Demands β} (first : Adds d)
    (rest : ∀ a, Adds (f a)) : Adds (d.bind f) :=
  fun h added => Dialogue.Upholds.bind (first h added) fun h a => rest a h

theorem adds_done {α : Type} (a : α) : Adds (.done a : Demands α) := fun _ added => added

theorem adds_transfer (destination : String) (entry : ResourceEntry) :
    Adds (transfer destination entry) := by
  intro h added
  refine ⟨trivial, fun result => added.append ⟨?_, rfl, rfl⟩⟩
  simp [Settles.transfer]

theorem adds_writeSnapshot (r : Resource) (d : Destination) : Adds (writeSnapshot r d) := by
  intro h added
  have got (a : (Call.getSnapshot r.snapshotKey).Answer) :
      Addition [⟨.call (.getSnapshot r.snapshotKey), a⟩] :=
    ⟨by simp [Settles.getSnapshot], rfl, rfl⟩
  refine ⟨trivial, ?_⟩
  rintro (e | _ | current)
  · exact added.append (got _)
  · refine ⟨trivial, ?_⟩
    rintro (e | p)
    · refine (added.append (got _)).append ⟨?_, rfl, rfl⟩
      simp [Settles.createSnapshot]
    · -- The counter follows the call, so the two are added together.
      refine ⟨trivial, fun _ => ?_⟩
      rw [List.append_assoc _ [_] [_]]
      refine (added.append (got _)).append ⟨?_, rfl, rfl⟩
      simp [Settles.createSnapshot, Settles.created]
  · change Dialogue.Upholds _ _ (if current.spec = ⟨d.snapshotRef⟩ then _ else _) _
    split
    · exact added.append (got _)
    · refine ⟨trivial, ?_⟩
      rintro (e | p)
      · refine (added.append (got _)).append ⟨?_, rfl, rfl⟩
        simp [Settles.updateSnapshot]
      · refine ⟨trivial, fun _ => ?_⟩
        rw [List.append_assoc _ [_] [_]]
        refine (added.append (got _)).append ⟨?_, rfl, rfl⟩
        simp [Settles.updateSnapshot, Settles.updated]

theorem adds_applyEntries (r : Resource) (d : Destination) (status : ResourceStatus)
    (entries : List ResourceEntry) : Adds (applyEntries r d status entries) := by
  induction entries generalizing status with
  | nil => exact adds_done _
  | cons entry rest ih =>
    refine (adds_transfer d.reference entry).bind ?_
    rintro (fault | report)
    · exact adds_done _
    · refine (adds_writeSnapshot r d).bind ?_
      rintro (e | _)
      · exact adds_done _
      · exact ih _

theorem adds_patchStatus (key : ObjectKey) (before after : ResourceStatus) :
    Adds (patchStatus key before after) := by
  rw [patchStatus]
  cases before.patch? after with
  | none => exact adds_done _
  | some patch =>
    intro h added
    have patched (a : (Call.patchStatus key patch).Answer) :
        Addition [⟨.call (.patchStatus key patch), a⟩] :=
      ⟨by simp [Settles.patchStatus], rfl, rfl⟩
    refine ⟨trivial, ?_⟩
    rintro (e | _) <;> exact added.append (patched _)

theorem adds_settle (registry : String) (key : ObjectKey) (r : Resource) (c : ComponentDescriptor) :
    Adds (settle registry key r c) := by
  refine (adds_applyEntries r (r.destination registry) (r.status.getD {}) _).bind ?_
  rintro (e | status)
  · exact adds_done _
  · exact adds_patchStatus key _ _

/-- What the counters show after a pass by itself, if it failed or not. -/
structure Account (h : List Event) (failed : Bool) : Prop where
  passes : counter .passes h = 1
  loads : h.countP (Event.calls .getResource) = 1
  errors : counter .passErrors h = failed.toNat
  pending : counter .descriptorsPending h = (waits h).toNat
  created : counter .snapshotsCreated h = (creations h).length
  updated : counter .snapshotsUpdated h = h.countP Event.updates

namespace Account

variable {h asked : List Event} {failed : Bool}

/-- To settle a resource raises no counter but those of snapshots. -/
theorem append (account : Account h failed) (added : Addition asked) : Account (h ++ asked) failed := by
  have unrecorded {m : Meter} (other : m ≠ .snapshotsCreated ∧ m ≠ .snapshotsUpdated) :
      counter m asked = 0 := by
    apply added.countP_eq_zero
    rintro ⟨_, a⟩ (_ | _ | _ | _ | _ | _ | _)
    case created => simp [Event.records, other.1.symm]
    case updated => simp [Event.records, other.2.symm]
    all_goals rfl
  constructor
  · rw [counter_append, account.passes, unrecorded (by simp)]
  · rw [List.countP_append, account.loads, added.countP_eq_zero]
    rintro ⟨_, a⟩ (_ | _ | _ | _ | _ | _ | _) <;> rfl
  · rw [counter_append, account.errors, unrecorded (by simp), Nat.add_zero]
  · rw [counter_append, account.pending, unrecorded (by simp), Nat.add_zero, added.waits_append]
  · rw [counter_append, creations_append, List.length_append, account.created, added.created]
  · rw [counter_append, List.countP_append, account.updated, added.updated]

/-- The records at the end of a pass change nothing but the count of failures. -/
theorem record (account : Account h false) {m : Meter} (ends : m = .passLatency ∨ m = .passErrors) :
    Account (h ++ [⟨.record m, ()⟩]) (m = .passErrors) := by
  have unrecorded {m' : Meter} (other : m' ≠ m) : counter m' [⟨.record m, ()⟩] = 0 := by
    simp [counter, Event.records, other.symm]
  have errors : counter .passErrors [⟨.record m, ()⟩] = (decide (m = .passErrors)).toNat := by
    rcases ends with rfl | rfl <;> rfl
  have loads : ([⟨.record m, ()⟩] : List Event).countP (Event.calls .getResource) = 0 := rfl
  have creates : creations [⟨.record m, ()⟩] = [] := rfl
  have updates : ([⟨.record m, ()⟩] : List Event).countP Event.updates = 0 := rfl
  have still : waits (h ++ [⟨.record m, ()⟩]) = waits h := waits_append rfl fun _ => rfl
  constructor
  · rw [counter_append, account.passes, unrecorded (by rcases ends with rfl | rfl <;> simp)]
  · rw [List.countP_append, account.loads, loads]
  · rw [counter_append, account.errors, errors, Bool.toNat_false, Nat.zero_add]
  · rw [counter_append, account.pending, unrecorded (by rcases ends with rfl | rfl <;> simp),
      Nat.add_zero, still]
  · rw [counter_append, account.created, unrecorded (by rcases ends with rfl | rfl <;> simp),
      creations_append, creates, List.append_nil, Nat.add_zero]
  · rw [counter_append, List.countP_append, account.updated, updates,
      unrecorded (by rcases ends with rfl | rfl <;> simp)]

end Account

variable (registry : String) (fallback : Span) (key : ObjectKey)

theorem converge_accounts :
    (converge registry fallback key).Upholds (fun _ _ => True) (fun h _ => Account h false)
      [⟨.record .passes, ()⟩] := by
  rw [converge]
  refine ⟨trivial, ?_⟩
  rintro (e | _ | r)
  · exact ⟨rfl, rfl, rfl, rfl, rfl, rfl⟩
  · exact ⟨rfl, rfl, rfl, rfl, rfl, rfl⟩
  · refine ⟨trivial, ?_⟩
    rintro (e | _ | c)
    · exact ⟨rfl, rfl, rfl, rfl, rfl, rfl⟩
    · refine ⟨trivial, fun _ => ⟨rfl, rfl, rfl, ?_, rfl, rfl⟩⟩
      rw [waits_of_lacks rfl (.head _) (by simp)]
      rfl
    · generalize loads : ([⟨.record .passes, ()⟩] ++ [⟨.call (.getResource key), .ok (some r)⟩] ++
        [⟨.call (.getDescriptor r.descriptorKey), .ok (some c)⟩] : List Event) = before
      have account : Account before false := by
        subst loads
        exact ⟨rfl, rfl, rfl, rfl, rfl, rfl⟩
      have settles := (adds_settle registry key r c [] .nil).after before
      rw [List.append_nil] at settles
      refine Dialogue.Upholds.bind (d := settle registry key r c) settles ?_
      rintro h (e | _) ⟨asked, rfl, added⟩ <;> exact account.append added

/-- Whatever a pass is answered, its history accounts for what it records. -/
theorem run_accounts :
    (run registry fallback key).Upholds (fun _ _ => True) (fun h result => Account h !result.isOk) [] := by
  rw [run]
  refine ⟨trivial, fun _ => ?_⟩
  refine Dialogue.Upholds.bind (d := converge registry fallback key)
    (converge_accounts registry fallback key) ?_
  rintro h (f | q) account
  · exact ⟨trivial, fun _ => ⟨trivial, fun _ => (account.record (.inl rfl)).record (.inr rfl)⟩⟩
  · exact ⟨trivial, fun _ => account.record (.inl rfl)⟩

end Pass

namespace Setting

variable {α : Type}

theorem calls_run (d : Demands α) (w : Setting) (operation : Operation) :
    (d.run answer w).2.store.calls operation =
      w.store.calls operation + (d.history answer w).countP (Event.calls operation) := by
  induction d generalizing w with
  | done a => rfl
  | ask q next ih =>
    rw [Dialogue.run_ask, ih, Dialogue.history_ask, List.countP_cons]
    cases q with
    | transfer | record => rfl
    | call c =>
      simp only [answer, MemoryStore.calls_answer, Event.calls, decide_eq_true_eq]
      omega

/-- The snapshots after a run are those before it and those that were created. -/
theorem balance_run (d : Demands α) (w : Setting) (k : ObjectKey) :
    present k (d.run answer w).2.store.objects =
      present k w.store.objects + (creations (d.history answer w)).count k := by
  induction d generalizing w with
  | done a => rfl
  | ask q next ih =>
    have asked : creations (⟨q, (answer q w).1⟩ :: (next (answer q w).1).history answer (answer q w).2) =
        creations [⟨q, (answer q w).1⟩] ++
          creations ((next (answer q w).1).history answer (answer q w).2) :=
      creations_append [_] _
    rw [Dialogue.run_ask, ih, Dialogue.history_ask, asked, List.count_append, ← Nat.add_assoc]
    cases q with
    | transfer | record => rfl
    | call c =>
      congr 1
      exact (w.store.answer_change c).balance k

end Setting

def Objects.snapshotKeys (o : Objects) : Finset ObjectKey := (Table.keys o.snapshots).toFinset

theorem Objects.mem_snapshotKeys {o : Objects} {k : ObjectKey} :
    k ∈ o.snapshotKeys ↔ present k o = 1 := by
  rw [snapshotKeys, List.mem_toFinset]
  rcases present_cases k o with ⟨before, absent⟩ | ⟨before, p, found⟩
  · simp [before, Table.get?_eq_none_iff.mp absent]
  · have held : k ∈ Table.keys o.snapshots := by
      by_contra missing
      rw [Table.get?_eq_none_iff.mpr missing] at found
      cases found
    simp [before, held]

namespace Turn

variable (registry : String) (fallback : Span)

def starts : List Turn → MemoryStore → List (Turn × MemoryStore)
  | [], _ => []
  | t :: turns, s => (t, s) :: starts turns (t.store registry fallback s)

theorem account (t : Turn) (s : MemoryStore) :
    Pass.Account (t.events registry fallback s) !(t.result registry fallback s).isOk :=
  (Pass.run_accounts registry fallback t.key).history Setting.answer (t.setting s)

theorem calls_after (turns : List Turn) (s : MemoryStore) (operation : Operation) :
    (after registry fallback turns s).calls operation =
      s.calls operation + (eventsOf registry fallback turns s).countP (Event.calls operation) := by
  induction turns generalizing s with
  | nil => rfl
  | cons t turns ih =>
    have first : (t.store registry fallback s).calls operation =
        s.calls operation + (t.events registry fallback s).countP (Event.calls operation) :=
      Setting.calls_run (Pass.run registry fallback t.key) (t.setting s) operation
    rw [after_cons, ih, first, eventsOf_cons, List.countP_append, Nat.add_assoc]

theorem balance_after (turns : List Turn) (s : MemoryStore) (k : ObjectKey) :
    present k (after registry fallback turns s).objects =
      present k s.objects + (creations (eventsOf registry fallback turns s)).count k := by
  induction turns generalizing s with
  | nil => rfl
  | cons t turns ih =>
    have first : present k (t.store registry fallback s).objects =
        present k s.objects + (creations (t.events registry fallback s)).count k :=
      Setting.balance_run (Pass.run registry fallback t.key) (t.setting s) k
    rw [after_cons, ih, first, eventsOf_cons, creations_append, List.count_append, Nat.add_assoc]

/-- Each snapshot that is new at the end was created once. -/
theorem length_creations (turns : List Turn) (s : MemoryStore) :
    (creations (eventsOf registry fallback turns s)).length =
      ((after registry fallback turns s).objects.snapshotKeys \ s.objects.snapshotKeys).card := by
  have once : (creations (eventsOf registry fallback turns s)).Nodup := by
    rw [List.nodup_iff_count_le_one]
    intro k
    have balance := balance_after registry fallback turns s k
    rcases present_cases k (after registry fallback turns s).objects with ⟨last, -⟩ | ⟨last, -⟩ <;>
      omega
  rw [← List.toFinset_card_of_nodup once]
  congr 1
  ext k
  have balance := balance_after registry fallback turns s k
  rw [Finset.mem_sdiff, Objects.mem_snapshotKeys, Objects.mem_snapshotKeys, List.mem_toFinset,
    ← List.count_pos_iff]
  rcases present_cases k (after registry fallback turns s).objects with ⟨last, -⟩ | ⟨last, -⟩ <;>
    rcases present_cases k s.objects with ⟨first, -⟩ | ⟨first, -⟩ <;> omega

/-- The counters after any passes, from zero. Each pass counts once and loads once. Failed passes, and those
that found their resource but no descriptor, are counted as such. A snapshot is counted as created where it is
new in the store, and as updated where the call for it went through. -/
theorem counters_account (turns : List Turn) (s : MemoryStore) :
    counter .passes (eventsOf registry fallback turns s) = turns.length ∧
    (after registry fallback turns s).calls .getResource = s.calls .getResource + turns.length ∧
    counter .passErrors (eventsOf registry fallback turns s) =
      (starts registry fallback turns s).countP (fun (t, s) => !(t.result registry fallback s).isOk) ∧
    counter .descriptorsPending (eventsOf registry fallback turns s) =
      (starts registry fallback turns s).countP (fun (t, s) => waits (t.events registry fallback s)) ∧
    counter .snapshotsCreated (eventsOf registry fallback turns s) =
      ((after registry fallback turns s).objects.snapshotKeys \ s.objects.snapshotKeys).card ∧
    counter .snapshotsUpdated (eventsOf registry fallback turns s) =
      (eventsOf registry fallback turns s).countP Event.updates := by
  rw [← length_creations, calls_after]
  induction turns generalizing s with
  | nil => exact ⟨rfl, rfl, rfl, rfl, rfl, rfl⟩
  | cons t turns ih =>
    obtain ⟨passes, loads, errors, pending, created, updated⟩ := ih (t.store registry fallback s)
    have account := t.account registry fallback s
    rw [Nat.add_right_inj] at loads ⊢
    have asBit (b : Bool) : b.toNat = if b = true then 1 else 0 := by cases b <;> rfl
    simp only [eventsOf_cons, counter_append, List.countP_append, creations_append, List.length_append,
      starts, List.countP_cons, List.length_cons]
    refine ⟨?_, ?_, ?_, ?_, ?_, ?_⟩
    · rw [account.passes, passes, Nat.add_comm]
    · rw [account.loads, loads, Nat.add_comm]
    · rw [account.errors, errors, asBit, Nat.add_comm]
    · rw [account.pending, pending, asBit, Nat.add_comm]
    · rw [account.created, created]
    · rw [account.updated, updated]

end Turn
end Stowage
