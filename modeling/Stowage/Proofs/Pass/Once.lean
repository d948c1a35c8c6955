import Stowage.Proofs.Pass.Events
import Stowage.Proofs.Pass.Retry

/-! How often passes write. A pass writes the snapshot or the status only where it is not yet as the pass
leaves it, so over any number of passes each is written once. -/
namespace Stowage

def eventsWith (kind : Demand → Bool) (history : List Event) : List Event :=
  history.filter fun e => kind e.1

section

variable (kind : Demand → Bool)

@[simp] theorem eventsWith_nil : eventsWith kind [] = [] := rfl

@[simp] theorem eventsWith_append (h₁ h₂ : List Event) :
    eventsWith kind (h₁ ++ h₂) = eventsWith kind h₁ ++ eventsWith kind h₂ := List.filter_append ..

theorem eventsWith_cons (e : Event) (h : List Event) :
    eventsWith kind (e :: h) = if kind e.1 then e :: eventsWith kind h else eventsWith kind h :=
  List.filter_cons

theorem eventsWith_eq_nil_iff {kind : Demand → Bool} {h : List Event} :
    eventsWith kind h = [] ↔ ∀ e ∈ h, kind e.1 = false := by
  simp [eventsWith]

end

namespace Pass

section Entries

variable (r : Resource) (d : Destination)

/-- A snapshot that has its reference is not written; another one is, at most once. -/
theorem writeSnapshot_writes (w : Setting) :
    (recorded r d w.store.snapshots = w.store.snapshots →
      eventsWith Demand.writesSnapshot ((writeSnapshot r d).history Setting.answer w) = []) ∧
    (eventsWith Demand.writesSnapshot ((writeSnapshot r d).history Setting.answer w) = [] ∨
      ∃ e, eventsWith Demand.writesSnapshot ((writeSnapshot r d).history Setting.answer w) = [e] ∧
        (e.succeeded → ((writeSnapshot r d).run Setting.answer w).1 = .ok ())) := by
  rw [writeSnapshot]
  simp only [Dialogue.bind_eq, Dialogue.run_bind, Dialogue.history_bind, Setting.run_call,
    Setting.history_call]
  rcases w.store.answer_cases (.getSnapshot r.snapshotKey) with ⟨e, injected, h⟩ | h
  · rw [h]
    exact ⟨fun _ => rfl, .inl rfl⟩
  rw [h, MemoryStore.perform]
  cases found : Table.get? r.snapshotKey (w.store.noted (.getSnapshot r.snapshotKey)).snapshots with
  | none =>
    refine ⟨fun same => ?_, .inr ?_⟩
    · obtain ⟨p, found', -⟩ := get?_recorded r d w.store.snapshots
      rw [same] at found'
      cases found'.symm.trans found
    · simp only [Dialogue.run_bind, Dialogue.history_bind, Setting.run_call, Setting.history_call]
      generalize (MemoryStore.answer _ _) = created
      obtain ⟨e | p, s⟩ := created
      · exact ⟨_, rfl, fun met => absurd met Bool.false_ne_true⟩
      · exact ⟨_, rfl, fun _ => rfl⟩
  | some current =>
    by_cases same : current.spec = ⟨d.snapshotRef⟩
    · simp only [same]
      exact ⟨fun _ => rfl, .inl rfl⟩
    · refine ⟨fun still => ?_, .inr ?_⟩
      · obtain ⟨p, found', spec⟩ := get?_recorded r d w.store.snapshots
        rw [still] at found'
        cases found'.symm.trans found
        exact absurd spec same
      · simp only [same, if_false, Dialogue.run_bind, Dialogue.history_bind, Setting.run_call,
          Setting.history_call]
        generalize (MemoryStore.answer _ _) = updated
        obtain ⟨e | p, s⟩ := updated
        · exact ⟨_, rfl, fun met => absurd met Bool.false_ne_true⟩
        · exact ⟨_, rfl, fun _ => rfl⟩

/-- Once the snapshot has its reference, the entries that follow leave it alone. -/
theorem applyEntries_still (status : ResourceStatus) (entries : List ResourceEntry) {w : Setting}
    (current : recorded r d w.store.snapshots = w.store.snapshots) :
    eventsWith Demand.writesSnapshot
      ((applyEntries r d status entries).history Setting.answer w) = [] := by
  induction entries generalizing status w with
  | nil => rfl
  | cons entry rest ih =>
    rw [applyEntries_history_cons, eventsWith_cons, if_neg (by simp [Demand.writesSnapshot])]
    cases w.outcomes 0 with
    | error fault => rfl
    | ok report =>
      obtain ⟨unwritten, -⟩ := writeSnapshot_writes r d { w with outcomes := fun n => w.outcomes (n + 1) }
      simp only [eventsWith_append, unwritten current, List.nil_append]
      obtain ⟨log, written | ⟨c, e, injected, failed⟩⟩ :=
        run_writeSnapshot r d { w with outcomes := fun n => w.outcomes (n + 1) }
      · rw [written]
        exact ih _ (recorded_recorded r d w.store.snapshots)
      · rw [failed]
        rfl

variable {r d} in
/-- Entries leave a snapshot that has its reference as it is. -/
theorem Progress.eq_of_recorded {failures : List (Operation × String)}
    {outcomes : Nat → Except TransferFault TransferReport} {table table' : List (ObjectKey × Snapshot)}
    {status : ResourceStatus} {entries : List ResourceEntry}
    {result : Except PassError ResourceStatus} {made : List Attempt}
    (h : Progress r d failures outcomes table status entries result table' made)
    (current : recorded r d table = table) : table' = table := by
  have still (done : List ResourceEntry) : recordedFor r d done table = table := by
    rw [recordedFor, current, ite_self]
  cases h <;> exact still _

variable {r d} in
theorem Progress.status_eq {failures : List (Operation × String)}
    {outcomes : Nat → Except TransferFault TransferReport} {table table' : List (ObjectKey × Snapshot)}
    {status status' : ResourceStatus} {entries : List ResourceEntry} {made : List Attempt}
    (h : Progress r d failures outcomes table status entries (.ok status') table' made) :
    status' = applied status entries := by
  cases h
  rfl

/-- However many entries there are, the snapshot is written at most once. -/
theorem applyEntries_writes (status : ResourceStatus) (entries : List ResourceEntry) (w : Setting) :
    (recordedFor r d entries w.store.snapshots = w.store.snapshots →
      eventsWith Demand.writesSnapshot
        ((applyEntries r d status entries).history Setting.answer w) = []) ∧
    (eventsWith Demand.writesSnapshot
        ((applyEntries r d status entries).history Setting.answer w) = [] ∨
      ∃ e, eventsWith Demand.writesSnapshot
          ((applyEntries r d status entries).history Setting.answer w) = [e] ∧
        (e.succeeded → ((applyEntries r d status entries).run Setting.answer w).2.store.snapshots =
          recordedFor r d entries w.store.snapshots)) := by
  cases entries with
  | nil => exact ⟨fun _ => rfl, .inl rfl⟩
  | cons entry rest =>
    refine ⟨applyEntries_still r d status (entry :: rest), ?_⟩
    rw [applyEntries_history_cons, eventsWith_cons, if_neg (by simp [Demand.writesSnapshot])]
    cases delivered : w.outcomes 0 with
    | error fault => exact .inl rfl
    | ok report =>
      obtain ⟨-, writes⟩ := writeSnapshot_writes r d { w with outcomes := fun n => w.outcomes (n + 1) }
      simp only [eventsWith_append]
      obtain ⟨log, written | ⟨c, e, injected, failed⟩⟩ :=
        run_writeSnapshot r d { w with outcomes := fun n => w.outcomes (n + 1) }
      · rw [applyEntries_run_cons r d status entry rest delivered written]
        rw [written] at writes ⊢
        -- The others start from the snapshot that was written here.
        have current := recorded_recorded r d w.store.snapshots
        obtain ⟨result, snapshots, log', outcomes, run, progress⟩ := applyEntries_progress r d
          { status with lastAppliedVersion := some entry.version } rest
          { store := { w.store with snapshots := recorded r d w.store.snapshots, log := log }
            outcomes := fun n => w.outcomes (n + 1) }
        have left : snapshots = recorded r d w.store.snapshots :=
          progress.eq_of_recorded current
        have none := applyEntries_still r d { status with lastAppliedVersion := some entry.version } rest
          (w := { store := { w.store with snapshots := recorded r d w.store.snapshots, log := log }
                  outcomes := fun n => w.outcomes (n + 1) }) current
        simp only [none, run, List.append_nil]
        exact writes.imp_right fun ⟨e, single, _⟩ => ⟨e, single, fun _ => left⟩
      · rw [failed] at writes ⊢
        simp only [eventsWith_nil, List.append_nil]
        refine writes.imp_right fun ⟨e, single, succeeded⟩ => ⟨e, single, fun done => ?_⟩
        cases succeeded done

end Entries

/-- The status is patched where it differs, and then once. -/
theorem patchStatus_patches (key : ObjectKey) (before after : ResourceStatus) (w : Setting) :
    (before = after →
      eventsWith Demand.patchesStatus ((patchStatus key before after).history Setting.answer w) = []) ∧
    (eventsWith Demand.patchesStatus ((patchStatus key before after).history Setting.answer w) = [] ∨
      ∃ e, eventsWith Demand.patchesStatus ((patchStatus key before after).history Setting.answer w) = [e] ∧
        (e.succeeded → ((patchStatus key before after).run Setting.answer w).1 = .ok ())) := by
  rw [patchStatus, ← ResourceStatus.patch?_eq_none_iff]
  cases before.patch? after with
  | none => exact ⟨fun _ => rfl, .inl rfl⟩
  | some patch =>
    refine ⟨fun same => absurd same (Option.some_ne_none patch), .inr ?_⟩
    simp only [Dialogue.bind_eq, Dialogue.run_bind, Dialogue.history_bind, Setting.run_call,
      Setting.history_call]
    generalize (MemoryStore.answer _ _) = answered
    obtain ⟨e | _, s⟩ := answered
    · exact ⟨_, rfl, fun met => absurd met Bool.false_ne_true⟩
    · exact ⟨_, rfl, fun _ => rfl⟩

/-- What a pass does to a part of the objects by demands of some kind: nothing if that part is already as it
is to be, and otherwise it is brought there by the first demand that is met. -/
structure Reaches {τ : Type} (kind : Demand → Bool) (part : Objects → τ) (start goal o : Objects)
    (history : List Event) : Prop where
  still : part goal = part start → eventsWith kind history = []
  single : eventsWith kind history = [] ∨
    ∃ e, eventsWith kind history = [e] ∧ (e.succeeded → part o = part goal)

theorem Reaches.of_nil {τ : Type} {kind : Demand → Bool} {part : Objects → τ} {start goal o : Objects}
    {history : List Event} (none : eventsWith kind history = []) :
    Reaches kind part start goal o history := ⟨fun _ => none, .inl none⟩

theorem snapshots_patchStatus (key : ObjectKey) (before after : ResourceStatus) (w : Setting) :
    ((patchStatus key before after).run Setting.answer w).2.store.snapshots = w.store.snapshots := by
  rw [patchStatus]
  cases before.patch? after with
  | none => rfl
  | some patch =>
    simp only [Dialogue.bind_eq, Dialogue.run_bind, Setting.run_call]
    obtain ⟨-, objects, -⟩ := w.store.answer_reaction (.patchStatus key patch)
    have kept : (w.store.answer (.patchStatus key patch)).2.snapshots = w.store.snapshots := by
      refine (congrArg Objects.snapshots objects).trans ?_
      generalize (Call.reaction _ _ _).2 = put
      cases put <;> rfl
    generalize w.store.answer (.patchStatus key patch) = answered at kept ⊢
    obtain ⟨e | _, s⟩ := answered <;> exact kept

section Settle

variable (registry : String) (key : ObjectKey) (r : Resource) (c : ComponentDescriptor)

theorem settle_run (w : Setting) :
    (settle registry key r c).run Setting.answer w =
      match (handleEntries registry r c).run Setting.answer w with
      | (.error e, v) => (.error e, v)
      | (.ok status, v) =>
        (patchStatus key (r.status.getD {}) (observed r status)).run Setting.answer v := by
  rw [settle, entriesNamed_eq]
  simp only [Dialogue.bind_eq, Dialogue.run_bind]
  rw [← handleEntries]
  generalize (handleEntries registry r c).run Setting.answer w = handled
  obtain ⟨e | status, v⟩ := handled <;> rfl

theorem settle_snapshots (w : Setting) :
    ((settle registry key r c).run Setting.answer w).2.store.snapshots =
      ((handleEntries registry r c).run Setting.answer w).2.store.snapshots := by
  rw [settle_run]
  generalize (handleEntries registry r c).run Setting.answer w = handled
  obtain ⟨e | status, v⟩ := handled
  · rfl
  · exact snapshots_patchStatus ..

/-- Snapshots are written only for the entries. -/
theorem settle_writes (w : Setting) :
    eventsWith Demand.writesSnapshot ((settle registry key r c).history Setting.answer w) =
      eventsWith Demand.writesSnapshot ((handleEntries registry r c).history Setting.answer w) := by
  rw [settle_history, eventsWith_append]
  split
  · exact List.append_nil _
  next status v _ =>
    have unwritten : eventsWith Demand.writesSnapshot
        ((patchStatus key (r.status.getD {}) (observed r status)).history Setting.answer v) = [] := by
      apply eventsWith_eq_nil_iff.mpr
      rintro ⟨q, a⟩ member
      obtain ⟨patch, rfl⟩ :=
        (patchStatus_asks key (r.status.getD {}) (observed r status)).history Setting.answer v _ member
      rfl
    rw [unwritten, List.append_nil]

/-- The status is patched only to the settled one, and the resource is settled once that is done. -/
theorem settle_patches (w : Setting) :
    (r.status.getD {} = settledStatus r c →
      eventsWith Demand.patchesStatus ((settle registry key r c).history Setting.answer w) = []) ∧
    (eventsWith Demand.patchesStatus ((settle registry key r c).history Setting.answer w) = [] ∨
      ∃ e, eventsWith Demand.patchesStatus ((settle registry key r c).history Setting.answer w) = [e] ∧
        (e.succeeded → ((settle registry key r c).run Setting.answer w).1 = .ok ())) := by
  have unpatched : eventsWith Demand.patchesStatus
      ((handleEntries registry r c).history Setting.answer w) = [] :=
    eventsWith_eq_nil_iff.mpr fun e member =>
      ((applyEntries_asks r (r.destination registry) (r.status.getD {}) (entriesFor r c)).history
        Setting.answer w e member).unpatched
  obtain ⟨handled, snapshots, log, outcomes, run, progress⟩ := applyEntries_progress r
    (r.destination registry) (r.status.getD {}) (entriesFor r c) w
  rw [settle_history, eventsWith_append, unpatched, List.nil_append, settle_run, handleEntries, run]
  cases handled with
  | error e => exact ⟨fun _ => rfl, .inl rfl⟩
  | ok status =>
    have settled : observed r status = settledStatus r c := congrArg (observed r) progress.status_eq
    rw [← settled]
    exact patchStatus_patches key (r.status.getD {}) (observed r status) _

end Settle

section Shape

variable {registry : String} {fallback : Span} {key : ObjectKey} {w : Setting}
  {result : Except Failure Requeue} {o : Objects} {history : List Event}

/-- Demands that are not made to look around are those of the resource that is settled. -/
theorem eventsWith_between {kind : Demand → Bool} (quiet : ∀ q, Looks key q → kind q = false)
    {before middle after : List Event} (first : ∀ e ∈ before, Looks key e.1)
    (last : ∀ e ∈ after, Looks key e.1) :
    eventsWith kind (before ++ middle ++ after) = eventsWith kind middle := by
  rw [eventsWith_append, eventsWith_append,
    eventsWith_eq_nil_iff.mpr fun e member => quiet _ (first e member),
    eventsWith_eq_nil_iff.mpr fun e member => quiet _ (last e member), List.nil_append, List.append_nil]

theorem Shape.snapshots (h : Shape registry key w result o history) :
    Reaches Demand.writesSnapshot Objects.snapshots w.store.objects (goal registry key w.store.objects) o
      history := by
  cases h with
  | idle looks => exact .of_nil (eventsWith_eq_nil_iff.mpr fun e member => (looks e member).still.1)
  | busy r c v before after found described alike outcomes first last went left between =>
    have start : v.store.snapshots = w.store.snapshots := congrArg Objects.snapshots alike.objects
    have snapshots : o.snapshots =
        ((handleEntries registry r c).run Setting.answer v).2.store.snapshots := by
      rw [left]
      exact settle_snapshots registry key r c v
    obtain ⟨still, single⟩ := applyEntries_writes r (r.destination registry) (r.status.getD {})
      (entriesFor r c) v
    rw [← handleEntries, start] at still single
    rw [between, goal_of_described found described]
    constructor
    · rw [eventsWith_between (fun q looks => looks.still.1) first last, settle_writes]
      exact still
    · rw [eventsWith_between (fun q looks => looks.still.1) first last, settle_writes, snapshots]
      exact single

theorem eq_of_patched_eq {r : Resource} {after : ResourceStatus} {table : List (ObjectKey × Resource)}
    (found : Table.get? key table = some r) (same : patched key r after table = table) :
    r.status.getD {} = after := by
  obtain ⟨status, found', settled⟩ := get?_patched key found after
  rw [same, found] at found'
  obtain rfl : r.status = status := congrArg Resource.status (Option.some.inj found')
  exact settled

theorem Shape.resources (h : Shape registry key w result o history)
    (goes : ∀ q, result = .ok q → o = goal registry key w.store.objects) :
    Reaches Demand.patchesStatus Objects.resources w.store.objects (goal registry key w.store.objects) o
      history := by
  cases h with
  | idle looks => exact .of_nil (eventsWith_eq_nil_iff.mpr fun e member => (looks e member).still.2)
  | busy r c v before after found described alike outcomes first last went left between =>
    obtain ⟨still, single⟩ := settle_patches registry key r c v
    rw [between]
    constructor
    · intro same
      rw [goal_of_described found described] at same
      rw [eventsWith_between (fun q looks => looks.still.2) first last]
      exact still (eq_of_patched_eq found same)
    · rw [eventsWith_between (fun q looks => looks.still.2) first last]
      refine single.imp_right fun ⟨e, only, succeeded⟩ => ⟨e, only, fun done => ?_⟩
      obtain ⟨q, through⟩ := went (succeeded done)
      rw [goes q through]

end Shape
end Pass

namespace Turn

variable {registry : String} {fallback : Span} {key : ObjectKey}

theorem reaches_snapshots (t : Turn) (s : MemoryStore) :
    Pass.Reaches Demand.writesSnapshot Objects.snapshots s.objects (Pass.goal registry t.key s.objects)
      (t.store registry fallback s).objects (t.events registry fallback s) :=
  (t.shape registry fallback s).snapshots

theorem reaches_resources (t : Turn) (s : MemoryStore) :
    Pass.Reaches Demand.patchesStatus Objects.resources s.objects (Pass.goal registry t.key s.objects)
      (t.store registry fallback s).objects (t.events registry fallback s) := by
  refine (t.shape registry fallback s).resources fun q through => ?_
  have course := t.course registry fallback s
  rw [through] at course
  exact course.reaches

section Part

variable {τ : Type} {kind : Demand → Bool} {part : Objects → τ}
  (partway : ∀ {start o : Objects}, Pass.Partway registry key start o →
    part o = part start ∨ part o = part (Pass.goal registry key start))
  (turn : ∀ (t : Turn) (s : MemoryStore), t.key = key →
    Pass.Reaches kind part s.objects (Pass.goal registry key s.objects)
      (t.store registry fallback s).objects (t.events registry fallback s))

include partway in
/-- A part that is as it is to be stays so. -/
theorem reached_after {s s' : MemoryStore} (between : Pass.Partway registry key s.objects s'.objects)
    (reached : part (Pass.goal registry key s.objects) = part s.objects) :
    part (Pass.goal registry key s'.objects) = part s'.objects := by
  rw [between.goal_eq]
  rcases partway between with same | done
  · exact reached.trans same.symm
  · exact done.symm

include partway turn

theorem eventsWith_of_reached (turns : List Turn) (same : ∀ t ∈ turns, t.key = key) (s : MemoryStore)
    (reached : part (Pass.goal registry key s.objects) = part s.objects) :
    eventsWith kind (eventsOf registry fallback turns s) = [] := by
  induction turns generalizing s with
  | nil => rfl
  | cons t turns ih =>
    have between : Pass.Partway registry key s.objects (t.store registry fallback s).objects :=
      after_partway [t] (fun t member => same t (List.mem_singleton.mp member ▸ .head _)) s
    rw [eventsOf_cons, eventsWith_append, (turn t s (same t (.head _))).still reached, List.nil_append]
    exact ih (fun t member => same t (.tail _ member)) _ (reached_after partway between reached)

/-- Over all passes, at most one demand of the kind is met. -/
theorem once_of_turns (turns : List Turn) (same : ∀ t ∈ turns, t.key = key) (s : MemoryStore) :
    (eventsWith kind (eventsOf registry fallback turns s)).countP Event.succeeded ≤ 1 := by
  induction turns generalizing s with
  | nil => exact Nat.zero_le 1
  | cons t turns ih =>
    have others : ∀ t ∈ turns, t.key = key := fun t member => same t (.tail _ member)
    have between : Pass.Partway registry key s.objects (t.store registry fallback s).objects :=
      after_partway [t] (fun t member => same t (List.mem_singleton.mp member ▸ .head _)) s
    rw [eventsOf_cons, eventsWith_append, List.countP_append]
    rcases (turn t s (same t (.head _))).single with none | ⟨e, single, reaches⟩
    · rw [none, List.countP_nil, Nat.zero_add]
      exact ih others _
    · rw [single]
      by_cases succeeded : e.succeeded
      · have reached : part (Pass.goal registry key (t.store registry fallback s).objects) =
            part (t.store registry fallback s).objects := by
          rw [between.goal_eq, reaches succeeded]
        rw [eventsWith_of_reached partway turn turns others _ reached]
        exact List.countP_le_length
      · rw [List.countP_cons_of_neg succeeded, List.countP_nil, Nat.zero_add]
        exact ih others _

end Part

/-- However many passes there are over a resource and wherever they fail, one write of the snapshot and one
patch of the status are met at most; and once a pass went through, the later ones do not even ask for
either. -/
theorem written_once (registry : String) (fallback : Span) (key : ObjectKey) (s : MemoryStore)
    (turns : List Turn) (same : ∀ t ∈ turns, t.key = key) :
    ((eventsOf registry fallback turns s).countP fun e => e.succeeded && e.1.writesSnapshot) ≤ 1 ∧
    ((eventsOf registry fallback turns s).countP fun e => e.succeeded && e.1.patchesStatus) ≤ 1 ∧
    ∀ earlier t later q, turns = earlier ++ t :: later →
      t.result registry fallback (after registry fallback earlier s) = .ok q →
      ∀ e ∈ eventsOf registry fallback later (after registry fallback (earlier ++ [t]) s),
        e.1.writesSnapshot = false ∧ e.1.patchesStatus = false := by
  have snapshots (t : Turn) (s : MemoryStore) (own : t.key = key) :
      Pass.Reaches Demand.writesSnapshot Objects.snapshots s.objects (Pass.goal registry key s.objects)
        (t.store registry fallback s).objects (t.events registry fallback s) :=
    own ▸ t.reaches_snapshots s
  have resources (t : Turn) (s : MemoryStore) (own : t.key = key) :
      Pass.Reaches Demand.patchesStatus Objects.resources s.objects (Pass.goal registry key s.objects)
        (t.store registry fallback s).objects (t.events registry fallback s) :=
    own ▸ t.reaches_resources s
  refine ⟨?_, ?_, ?_⟩
  · rw [← List.countP_filter]
    exact once_of_turns (·.snapshots) snapshots turns same s
  · rw [← List.countP_filter]
    exact once_of_turns (·.resources) resources turns same s
  · rintro earlier t later q rfl ended e member
    have own : t.key = key := same t (by simp)
    have others : ∀ t ∈ later, t.key = key := fun t member => same t (by simp [member])
    have course := t.course registry fallback (after registry fallback earlier s)
    rw [ended, own] at course
    have settled : Pass.goal registry key (after registry fallback (earlier ++ [t]) s).objects =
        (after registry fallback (earlier ++ [t]) s).objects := by
      rw [after_concat]
      exact course.partway.goal_eq.trans course.reaches.symm
    constructor
    · exact eventsWith_eq_nil_iff.mp (eventsWith_of_reached (·.snapshots) snapshots later others _
        (congrArg Objects.snapshots settled)) e member
    · exact eventsWith_eq_nil_iff.mp (eventsWith_of_reached (·.resources) resources later others _
        (congrArg Objects.resources settled)) e member

/-- Of four passes the first breaks off at a transfer after it wrote the snapshot, the second at the status;
the third patches the status, and the last has nothing left to write. -/
theorem written_once_over_four_passes :
    (∀ t ∈ [Example.broken, Example.unpatched, Example.through, Example.through],
      t.key = ⟨"shop", "web"⟩) ∧
    Example.through.result "registry.local/" .zero
      (after "registry.local/" .zero [Example.broken, Example.unpatched] Example.store) =
        .ok (.after (.ofSeconds 600)) ∧
    ((eventsOf "registry.local/" .zero
      [Example.broken, Example.unpatched, Example.through, Example.through] Example.store).countP
        fun e => e.succeeded && e.1.writesSnapshot) = 1 ∧
    ((eventsOf "registry.local/" .zero
      [Example.broken, Example.unpatched, Example.through, Example.through] Example.store).countP
        fun e => e.succeeded && e.1.patchesStatus) = 1 ∧
    ∀ e ∈ eventsOf "registry.local/" .zero [Example.through]
        (after "registry.local/" .zero ([Example.broken, Example.unpatched] ++ [Example.through])
          Example.store),
      e.1.writesSnapshot = false ∧ e.1.patchesStatus = false := by
  have same : ∀ t ∈ [Example.broken, Example.unpatched, Example.through, Example.through],
      t.key = ⟨"shop", "web"⟩ := by decide
  have ended : Example.through.result "registry.local/" .zero
      (after "registry.local/" .zero [Example.broken, Example.unpatched] Example.store) =
        .ok (.after (.ofSeconds 600)) := by decide +kernel
  obtain ⟨snapshots, patches, still⟩ := written_once "registry.local/" .zero ⟨"shop", "web"⟩ Example.store
    [Example.broken, Example.unpatched, Example.through, Example.through] same
  refine ⟨same, ended, Nat.le_antisymm snapshots ?_, Nat.le_antisymm patches ?_,
    still [Example.broken, Example.unpatched] Example.through [Example.through] _ rfl ended⟩
  · decide +kernel
  · decide +kernel

end Turn
end Stowage
