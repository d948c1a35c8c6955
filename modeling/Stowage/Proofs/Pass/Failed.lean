import Mathlib.Logic.Function.Iterate
import Stowage.Proofs.Pass.Events

/-! What a pass leaves when it fails: no resource and no descriptor is touched, and what was done for the
entries before the failing one stands. -/
namespace Stowage

/-- Without transfers, only the objects and the failures of a setting count. -/
theorem Setting.run_alike {α : Type} {d : Demands α}
    (calm : d.AsksOnly fun q => ∀ destination entry, q ≠ .transfer destination entry) {w w' : Setting}
    (alike : w.store.Alike w'.store) : (d.run answer w).1 = (d.run answer w').1 := by
  induction d generalizing w w' with
  | done a => rfl
  | ask q next ih =>
    obtain ⟨calm, rest⟩ := calm
    cases q with
    | transfer destination entry => exact absurd rfl (calm destination entry)
    | record m => exact ih () (rest ()) alike
    | call c =>
      obtain ⟨same, left⟩ := MemoryStore.answer_alike alike c
      rw [Dialogue.run_ask, Dialogue.run_ask]
      simp only [answer, same]
      exact ih _ (rest _) left

namespace Pass

def written (r : Resource) (d : Destination) (w : Setting) : Setting :=
  ((writeSnapshot r d).run Setting.answer w).2

theorem written_snapshots {r : Resource} {d : Destination} {w : Setting}
    (went : ((writeSnapshot r d).run Setting.answer w).1 = .ok ()) :
    (written r d w).store.snapshots = recorded r d w.store.snapshots := by
  obtain ⟨log, ok | ⟨c, e, injected, failed⟩⟩ := run_writeSnapshot r d w
  · rw [written, ok]
  · rw [failed] at went
    cases went

section Entries

variable {r : Resource} {d : Destination} {failures : List (Operation × String)}
  {outcomes : Nat → Except TransferFault TransferReport} {table left : List (ObjectKey × Snapshot)}
  {status : ResourceStatus} {entries : List ResourceEntry} {result : Except PassError ResourceStatus}
  {made : List Attempt} {i : Nat} {a : Attempt} {fault : TransferFault}

/-- A delivery that failed had its outcome. -/
theorem outcome_of_failed (position : (deliveries d outcomes entries)[i]? = some a)
    (failed : a.result = .error fault) : entries[i]? = some a.entry ∧ outcomes i = .error fault := by
  rw [getElem?_deliveries] at position
  obtain ⟨entry, found, rfl⟩ := Option.map_eq_some_iff.mp position
  exact ⟨found, failed⟩

/-- A transfer that fails is the last one. -/
theorem Progress.of_failed (h : Progress r d failures outcomes table status entries result left made)
    (position : made[i]? = some a) (failed : a.result = .error fault) :
    ∃ done rest, entries = done ++ a.entry :: rest ∧ done.length = i ∧
      result = .error (.transfer a.entry.name a.entry.version d.reference fault) ∧
      left = recordedFor r d done table ∧ made = deliveries d outcomes (done ++ [a.entry]) := by
  have delivered {n : Nat} (went : ∀ i < n, ∃ report, outcomes i = .ok report)
      (outcome : outcomes i = .error fault) : n ≤ i := by
    refine Nat.le_of_not_lt fun less => ?_
    obtain ⟨report, ok⟩ := went i less
    rw [outcome] at ok
    cases ok
  cases h with
  | completed went =>
    obtain ⟨found, outcome⟩ := outcome_of_failed position failed
    have beyond := delivered went outcome
    rw [List.getElem?_eq_none beyond] at found
    cases found
  | untransferred done entry rest fault' split went failed' =>
    obtain ⟨found, outcome⟩ := outcome_of_failed position failed
    have last : i = done.length := by
      have beyond := delivered went outcome
      have within := (List.getElem?_eq_some_iff.mp found).1
      rw [List.length_append, List.length_singleton] at within
      omega
    subst last
    rw [List.getElem?_concat_length] at found
    cases found
    rw [failed'] at outcome
    cases outcome
    exact ⟨done, rest, split, rfl, rfl, rfl, rfl⟩
  | unrecorded done entry rest c e split went injected =>
    obtain ⟨found, outcome⟩ := outcome_of_failed position failed
    have beyond := delivered went outcome
    rw [List.getElem?_eq_none beyond] at found
    cases found

/-- An error of a transfer comes from a transfer that failed. -/
theorem Progress.failed_of_error {e : PassError}
    (h : Progress r d failures outcomes table status entries (.error e) left made)
    {name version destination : String} (transferring : e = .transfer name version destination fault) :
    ∃ (i : Nat) (a : Attempt), made[i]? = some a ∧ a.result = .error fault := by
  subst transferring
  cases h with
  | untransferred done entry rest _ split went failed =>
    refine ⟨done.length, ⟨d.reference, entry, .error fault⟩, ?_, rfl⟩
    rw [getElem?_deliveries, List.getElem?_concat_length, failed]
    rfl

/-- Between two transfers the snapshot is written. -/
theorem applyEntries_written {w : Setting}
    (several : 1 < (attempts ((applyEntries r d status entries).history Setting.answer w)).length) :
    ((writeSnapshot r d).run Setting.answer { w with outcomes := fun n => w.outcomes (n + 1) }).1 =
      .ok () := by
  cases entries with
  | nil => exact absurd several (by simp [applyEntries])
  | cons entry rest =>
    rw [applyEntries_history_cons] at several
    cases outcome : w.outcomes 0 with
    | error fault => simp [outcome, attempts, Event.attempt?] at several
    | ok report =>
      generalize ran : (writeSnapshot r d).run Setting.answer
        { w with outcomes := fun n => w.outcomes (n + 1) } = end' at several ⊢
      obtain ⟨e | _, v⟩ := end'
      · simp only [outcome, List.append_nil] at several
        rw [← List.singleton_append, attempts_append, attempts_writeSnapshot] at several
        simp [attempts, Event.attempt?] at several
      · rfl

end Entries

variable {registry : String} {fallback : Span} {key : ObjectKey} {w : Setting} {f : Failure}
  {o : Objects} {made : List Attempt}

/-- A pass that failed left all but the snapshots as it was. -/
theorem Course.untouched_of_error (h : Course registry fallback key w (.error f) o made) :
    o.resources = w.store.resources ∧ o.descriptors = w.store.descriptors := by
  cases h <;> exact ⟨rfl, rfl⟩

/-- There is a next pass unless the resource could not be loaded. -/
theorem Course.requeue_of_error (h : Course registry fallback key w (.error f) o made) :
    (∃ e, f = ⟨.loadResource key e, .never⟩) ∨
      ∃ r, Table.get? key w.store.resources = some r ∧ (∀ key e, f.error ≠ .loadResource key e) ∧
        f.requeue = requeue fallback r := by
  cases h with
  | unloaded e injected => exact .inl ⟨e, rfl⟩
  | undescribed r e found injected => exact .inr ⟨r, found, nofun, rfl⟩
  | broken r c e snapshots made found described progress =>
    refine .inr ⟨r, found, ?_, rfl⟩
    cases progress <;> exact nofun
  | unpatched r c status patch e snapshots made found described progress injected =>
    exact .inr ⟨r, found, nofun, rfl⟩

theorem Course.of_failed (h : Course registry fallback key w (.error f) o made) {i : Nat} {a : Attempt}
    {fault : TransferFault} (position : made[i]? = some a) (failed : a.result = .error fault) :
    ∃ r c done rest, Table.get? key w.store.resources = some r ∧
      Table.get? r.descriptorKey w.store.descriptors = some c ∧
      entriesFor r c = done ++ a.entry :: rest ∧ done.length = i ∧
      f.error = .transfer a.entry.name a.entry.version (r.destination registry).reference fault ∧
      o.snapshots = recordedFor r (r.destination registry) done w.store.snapshots ∧
      made = deliveries (r.destination registry) w.outcomes (done ++ [a.entry]) := by
  cases h with
  | unloaded | undescribed => cases position
  | broken r c e snapshots made found described progress =>
    obtain ⟨done, rest, split, count, error, left, attempted⟩ := progress.of_failed position failed
    cases error
    exact ⟨r, c, done, rest, found, described, split, count, rfl, left, attempted⟩
  | unpatched r c status patch e snapshots made found described progress injected =>
    obtain ⟨_, _, _, _, error, _⟩ := progress.of_failed position failed
    cases error

theorem Course.failed_of_error (h : Course registry fallback key w (.error f) o made)
    {name version destination : String} {fault : TransferFault}
    (transferring : f.error = .transfer name version destination fault) :
    ∃ (i : Nat) (a : Attempt), made[i]? = some a ∧ a.result = .error fault := by
  cases h with
  | unloaded | undescribed | unpatched => cases transferring
  | broken r c e snapshots made found described progress => exact progress.failed_of_error transferring

/-- With a transfer that failed, the pass does not come to the status. -/
theorem settle_unpatched {r : Resource} {c : ComponentDescriptor} {i : Nat} {a : Attempt}
    {fault : TransferFault}
    (position : (attempts ((settle registry key r c).history Setting.answer w))[i]? = some a)
    (failed : a.result = .error fault) :
    ∀ e ∈ (settle registry key r c).history Setting.answer w, e.1.patchesStatus = false := by
  obtain ⟨result, table, log, rest, run, progress⟩ := applyEntries_progress r (r.destination registry)
    (r.status.getD {}) (entriesFor r c) w
  rw [attempts_settle, handleEntries] at position
  obtain ⟨_, _, _, _, rfl, _⟩ := progress.of_failed position failed
  rw [settle_history, handleEntries, run, List.append_nil]
  intro e member
  exact ((applyEntries_asks ..).history Setting.answer w e member).unpatched

/-- The attempts of a pass are those made while it settles the resource. -/
theorem attempts_between {before after : List Event} (first : ∀ e ∈ before, Looks key e.1)
    (last : ∀ e ∈ after, Looks key e.1) (history : List Event) :
    attempts (before ++ history ++ after) = attempts history := by
  rw [attempts_append, attempts_append, attempts_looks first, attempts_looks last, List.nil_append,
    List.append_nil]

theorem Shape.unpatched_of_failed {result : Except Failure Requeue} {history : List Event}
    (h : Shape registry key w result o history) {i : Nat} {a : Attempt} {fault : TransferFault}
    (position : (attempts history)[i]? = some a) (failed : a.result = .error fault) :
    ∀ e ∈ history, e.1.patchesStatus = false := by
  cases h with
  | idle looks => exact fun e member => (looks e member).still.2
  | busy r c v before after found described alike outcomes first last went left between =>
    subst between
    rw [attempts_between first last] at position
    rw [List.forall_mem_append, List.forall_mem_append]
    exact ⟨⟨fun e member => (first e member).still.2, settle_unpatched position failed⟩,
      fun e member => (last e member).still.2⟩

/-- A pass that got to a second transfer could write the snapshot, and could from the start. -/
theorem Shape.written {result : Except Failure Requeue} {history : List Event}
    (h : Shape registry key w result o history) (several : 1 < (attempts history).length) {r : Resource}
    (found : Table.get? key w.store.resources = some r) :
    ((writeSnapshot r (r.destination registry)).run Setting.answer w).1 = .ok () := by
  cases h with
  | idle looks =>
    rw [attempts_looks looks] at several
    cases several
  | busy r' c v before after found' described alike outcomes first last went left between =>
    rw [found] at found'
    cases found'
    rw [between, attempts_between first last, attempts_settle, handleEntries] at several
    -- The pass wrote the snapshot in a store that is like the one at its start.
    rw [← applyEntries_written several]
    refine Setting.run_alike ((writeSnapshot_asks ..).mono ?_) alike.symm
    rintro q writes destination entry rfl
    cases writes

end Pass

namespace Turn

open Pass (entriesFor)

/-- A pass that fails touches no resource and no descriptor. If a transfer failed, the entries were
transferred in order up to that one, the pass never came to the status, its error names the entry, and the
snapshot is written if there was an entry before. Unless the resource could not be loaded, there is a next
pass after its interval. -/
theorem clean_of_error (registry : String) (fallback : Span) (s : MemoryStore) (t : Turn) (f : Failure)
    (ended : t.result registry fallback s = .error f) :
    (t.store registry fallback s).resources = s.resources ∧
    (t.store registry fallback s).descriptors = s.descriptors ∧
    (∀ i a fault, (t.attempts registry fallback s)[i]? = some a → a.result = .error fault →
      ∃ r c done rest, Table.get? t.key s.resources = some r ∧
        Table.get? r.descriptorKey s.descriptors = some c ∧
        entriesFor r c = done ++ a.entry :: rest ∧ done.length = i ∧
        (t.attempts registry fallback s).map (fun a => (a.destination, a.entry)) =
          (done ++ [a.entry]).map (fun entry => ((r.destination registry).reference, entry)) ∧
        (∀ e ∈ t.events registry fallback s, e.1.patchesStatus = false) ∧
        f.error = .transfer a.entry.name a.entry.version (r.destination registry).reference fault ∧
        (t.store registry fallback s).snapshots =
          ((Pass.written r (r.destination registry))^[min done.length 1]
            (t.setting s)).store.snapshots) ∧
    (∀ name version destination fault, f.error = .transfer name version destination fault →
      ∃ (i : Nat) (a : Attempt),
        (t.attempts registry fallback s)[i]? = some a ∧ a.result = .error fault) ∧
    ((∃ e, f = ⟨.loadResource t.key e, .never⟩) ∨
      ∃ r, Table.get? t.key s.resources = some r ∧ (∀ key e, f.error ≠ .loadResource key e) ∧
        f.requeue = .every (r.interval fallback)) := by
  have course := t.course registry fallback s
  have shape := t.shape registry fallback s
  rw [ended] at course
  obtain ⟨resources, descriptors⟩ := course.untouched_of_error
  refine ⟨resources, descriptors, ?_, fun _ _ _ _ => course.failed_of_error, course.requeue_of_error⟩
  intro i a fault position failed
  obtain ⟨r, c, done, rest, found, described, split, count, error, snapshots, made⟩ :=
    course.of_failed position failed
  replace snapshots : (t.store registry fallback s).snapshots = _ := snapshots
  refine ⟨r, c, done, rest, found, described, split, count, ?_,
    shape.unpatched_of_failed position failed, error, ?_⟩
  · rw [made, Pass.deliveries_asked]
  · rw [snapshots]
    cases done with
    | nil => rfl
    | cons entry done =>
      have several : 1 < (Stowage.attempts (t.events registry fallback s)).length := by
        rw [attempts_events, made]
        simp [Pass.deliveries]
      rw [List.length_cons, Nat.min_eq_right (Nat.le_add_left ..), Function.iterate_one,
        Pass.written_snapshots (shape.written several found)]
      rfl

/-- The second of two versions cannot be transferred: the first is recorded, and nothing is said of it in
the status. -/
theorem clean_after_a_broken_pass :
    Example.broken.result "registry.local/" .zero Example.store =
      .error ⟨.transfer "chart" "1.1" "registry.local/snapshots/web:stable"
        (.status "https://acme.org" 503), .after (.ofSeconds 600)⟩ ∧
    (Example.broken.store "registry.local/" .zero Example.store).resources = Example.store.resources ∧
    (Example.broken.store "registry.local/" .zero Example.store).descriptors =
      Example.store.descriptors ∧
    (∃ a r c done rest,
      (Example.broken.attempts "registry.local/" .zero Example.store)[1]? = some a ∧
      a.result = .error (.status "https://acme.org" 503) ∧
      Table.get? ⟨"shop", "web"⟩ Example.store.resources = some r ∧
      Table.get? r.descriptorKey Example.store.descriptors = some c ∧
      entriesFor r c = done ++ a.entry :: rest ∧ done.length = 1 ∧
      (∀ e ∈ Example.broken.events "registry.local/" .zero Example.store, e.1.patchesStatus = false) ∧
      (Example.broken.store "registry.local/" .zero Example.store).snapshots =
        ((Pass.written r (r.destination "registry.local/"))^[1]
          (Example.broken.setting Example.store)).store.snapshots) ∧
    ∃ r, Table.get? ⟨"shop", "web"⟩ Example.store.resources = some r ∧
      Requeue.after (.ofSeconds 600) = .every (r.interval .zero) := by
  have ended : Example.broken.result "registry.local/" .zero Example.store =
      .error ⟨.transfer "chart" "1.1" "registry.local/snapshots/web:stable"
        (.status "https://acme.org" 503), .after (.ofSeconds 600)⟩ := by decide +kernel
  have second : ((Example.broken.attempts "registry.local/" .zero Example.store)[1]?.map
      Attempt.result) = some (.error (.status "https://acme.org" 503)) := by decide +kernel
  obtain ⟨a, position, failed⟩ := Option.map_eq_some_iff.mp second
  obtain ⟨resources, descriptors, stopped, -, requeue⟩ :=
    clean_of_error "registry.local/" .zero Example.store Example.broken _ ended
  obtain ⟨r, c, done, rest, found, described, split, count, -, unpatched, -, snapshots⟩ :=
    stopped 1 a _ position failed
  rw [count] at snapshots
  refine ⟨ended, resources, descriptors, ⟨a, r, c, done, rest, position, failed, found, described, split,
    count, unpatched, snapshots⟩, ?_⟩
  rcases requeue with ⟨e, loading⟩ | ⟨r, found, -, next⟩
  · cases loading
  · exact ⟨r, found, next⟩

end Turn
end Stowage
