import Stowage.Proofs.Setting
import Stowage.Proofs.Store

/-! Going through the entries of a resource: the transfers that are made, the snapshot that is left, and
where it stops. -/
namespace Stowage.Pass

variable (r : Resource) (d : Destination)

def recorded (table : List (ObjectKey × Snapshot)) : List (ObjectKey × Snapshot) :=
  match Table.get? r.snapshotKey table with
  | none => Table.put r.snapshotKey (newSnapshot r ⟨d.snapshotRef⟩) table
  | some current =>
    if current.spec = ⟨d.snapshotRef⟩ then table
    else Table.put r.snapshotKey { current with spec := ⟨d.snapshotRef⟩ } table

/-- The snapshots once the entries are transferred: without entries none is written. -/
def recordedFor (entries : List ResourceEntry) (table : List (ObjectKey × Snapshot)) :
    List (ObjectKey × Snapshot) :=
  if entries = [] then table else recorded r d table

def applied (status : ResourceStatus) (entries : List ResourceEntry) : ResourceStatus :=
  entries.foldl (fun status entry => { status with lastAppliedVersion := some entry.version }) status

def deliveries (outcomes : Nat → Except TransferFault TransferReport) (entries : List ResourceEntry) :
    List Attempt :=
  entries.mapIdx fun i entry => ⟨d.reference, entry, outcomes i⟩

@[simp] theorem applied_nil (status : ResourceStatus) : applied status [] = status := rfl

@[simp] theorem applied_cons (status : ResourceStatus) (entry : ResourceEntry)
    (entries : List ResourceEntry) :
    applied status (entry :: entries) =
      applied { status with lastAppliedVersion := some entry.version } entries := rfl

@[simp] theorem applied_observedGeneration (status : ResourceStatus) (entries : List ResourceEntry) :
    (applied status entries).observedGeneration = status.observedGeneration := by
  induction entries generalizing status with
  | nil => rfl
  | cons entry rest ih => simp [ih]

/-- The last entry tells the version. -/
theorem applied_lastAppliedVersion (status : ResourceStatus) (entries : List ResourceEntry) :
    (applied status entries).lastAppliedVersion =
      (entries.getLast?.map ResourceEntry.version).or status.lastAppliedVersion := by
  induction entries generalizing status with
  | nil => rfl
  | cons entry rest ih =>
    rw [applied_cons, ih, List.getLast?_cons]
    cases rest.getLast? <;> rfl

theorem get?_recorded (table : List (ObjectKey × Snapshot)) :
    ∃ p, Table.get? r.snapshotKey (recorded r d table) = some p ∧ p.spec = ⟨d.snapshotRef⟩ := by
  unfold recorded
  split
  · exact ⟨_, Table.get?_put_same .., rfl⟩
  next current found =>
    split
    next same => exact ⟨current, found, same⟩
    next => exact ⟨_, Table.get?_put_same .., rfl⟩

theorem get?_recorded_other {key : ObjectKey} (apart : key ≠ r.snapshotKey)
    (table : List (ObjectKey × Snapshot)) :
    Table.get? key (recorded r d table) = Table.get? key table := by
  unfold recorded
  split
  · exact Table.get?_put_other apart ..
  · split
    · rfl
    · exact Table.get?_put_other apart ..

/-- A snapshot that has its reference is not written again. -/
theorem recorded_eq_self {table : List (ObjectKey × Snapshot)} {p : Snapshot}
    (found : Table.get? r.snapshotKey table = some p) (same : p.spec = ⟨d.snapshotRef⟩) :
    recorded r d table = table := by
  simp [recorded, found, same]

@[simp] theorem recorded_recorded (table : List (ObjectKey × Snapshot)) :
    recorded r d (recorded r d table) = recorded r d table := by
  obtain ⟨p, found, same⟩ := get?_recorded r d table
  exact recorded_eq_self r d found same

@[simp] theorem recordedFor_nil (table : List (ObjectKey × Snapshot)) :
    recordedFor r d [] table = table := rfl

theorem recordedFor_cons (entry : ResourceEntry) (entries : List ResourceEntry)
    (table : List (ObjectKey × Snapshot)) :
    recordedFor r d entries (recorded r d table) = recordedFor r d (entry :: entries) table := by
  cases entries <;> simp [recordedFor]

@[simp] theorem recordedFor_recordedFor (entries : List ResourceEntry)
    (table : List (ObjectKey × Snapshot)) :
    recordedFor r d entries (recordedFor r d entries table) = recordedFor r d entries table := by
  cases entries <;> simp [recordedFor]

/-- After some of the entries the snapshots are as before or as after all of them. -/
theorem recordedFor_append (done rest : List ResourceEntry) (table : List (ObjectKey × Snapshot)) :
    recordedFor r d done table = table ∨
      recordedFor r d done table = recordedFor r d (done ++ rest) table := by
  cases done with
  | nil => exact .inl rfl
  | cons entry done => exact .inr rfl

theorem deliveries_cons (outcomes : Nat → Except TransferFault TransferReport)
    (entry : ResourceEntry) (entries : List ResourceEntry) :
    deliveries d outcomes (entry :: entries) =
      ⟨d.reference, entry, outcomes 0⟩ :: deliveries d (fun n => outcomes (n + 1)) entries := by
  simp [deliveries, List.mapIdx_cons]

theorem deliveries_asked (outcomes : Nat → Except TransferFault TransferReport)
    (entries : List ResourceEntry) :
    (deliveries d outcomes entries).map (fun a => (a.destination, a.entry)) =
      entries.map fun entry => (d.reference, entry) := by
  induction entries generalizing outcomes with
  | nil => rfl
  | cons entry rest ih => rw [deliveries_cons, List.map_cons, List.map_cons, ih]

theorem getElem?_deliveries (outcomes : Nat → Except TransferFault TransferReport)
    (entries : List ResourceEntry) (i : Nat) :
    (deliveries d outcomes entries)[i]? =
      entries[i]?.map fun entry => ⟨d.reference, entry, outcomes i⟩ := by
  simp [deliveries]

/-- What is asked for to write a snapshot. -/
inductive Writes : Demand → Prop
  | get : Writes (.call (.getSnapshot r.snapshotKey))
  | create : Writes (.call (.createSnapshot (newSnapshot r ⟨d.snapshotRef⟩)))
  | update : Writes (.call (.updateSnapshot r.snapshotKey ⟨d.snapshotRef⟩))
  | record (m : Meter) : Writes (.record m)

theorem writeSnapshot_asks : (writeSnapshot r d).AsksOnly (Writes r d) := by
  refine Dialogue.AsksOnly.bind ⟨.get, fun _ => trivial⟩ ?_
  rintro (e | _ | current)
  · trivial
  · refine Dialogue.AsksOnly.bind ⟨.create, fun _ => trivial⟩ ?_
    rintro (e | p)
    · trivial
    · exact ⟨.record _, fun _ => trivial⟩
  · by_cases same : current.spec = ⟨d.snapshotRef⟩
    · simp only [same]
      trivial
    · simp only [same, if_false]
      refine Dialogue.AsksOnly.bind ⟨.update, fun _ => trivial⟩ ?_
      rintro (e | p)
      · trivial
      · exact ⟨.record _, fun _ => trivial⟩

theorem attempts_writeSnapshot (w : Setting) :
    attempts ((writeSnapshot r d).history Setting.answer w) = [] := by
  apply attempts_eq_nil
  rintro ⟨q, a⟩ member
  cases (writeSnapshot_asks r d).history Setting.answer w _ member <;> rfl

section Writing

variable (w : Setting)

/-- The snapshot is written, or a call was set to fail and it is as before. -/
theorem run_writeSnapshot : ∃ log,
    (writeSnapshot r d).run Setting.answer w =
      (.ok (), { w with store :=
        { w.store with snapshots := recorded r d w.store.snapshots, log } }) ∨
    ∃ c e, MemoryStore.Injects w.store.failures c e ∧
      (writeSnapshot r d).run Setting.answer w =
        (.error (.snapshot r.snapshotKey e), { w with store := { w.store with log } }) := by
  rw [writeSnapshot]
  simp only [Dialogue.bind_eq, Dialogue.run_bind, Setting.run_call]
  rcases w.store.answer_cases (.getSnapshot r.snapshotKey) with ⟨e, injected, h⟩ | h
  · rw [h]
    exact ⟨_, .inr ⟨_, e, injected, rfl⟩⟩
  rw [h, MemoryStore.perform]
  cases found : Table.get? r.snapshotKey (w.store.noted (.getSnapshot r.snapshotKey)).snapshots with
  | none =>
    simp only [Dialogue.run_bind, Setting.run_call]
    rcases MemoryStore.answer_createSnapshot (p := newSnapshot r ⟨d.snapshotRef⟩) found with
      ⟨e, injected, h⟩ | h
    · rw [h]
      exact ⟨_, .inr ⟨_, e, injected, rfl⟩⟩
    · rw [h]
      rw [MemoryStore.noted_snapshots] at found
      rw [recorded, found]
      exact ⟨_, .inl rfl⟩
  | some current =>
    by_cases same : current.spec = ⟨d.snapshotRef⟩
    · simp only [same]
      rw [MemoryStore.noted_snapshots] at found
      rw [recorded_eq_self r d found same]
      exact ⟨_, .inl rfl⟩
    · simp only [same, if_false, Dialogue.run_bind, Setting.run_call]
      rcases MemoryStore.answer_updateSnapshot found ⟨d.snapshotRef⟩ with ⟨e, injected, h⟩ | h
      · rw [h]
        exact ⟨_, .inr ⟨_, e, injected, rfl⟩⟩
      · rw [h]
        rw [MemoryStore.noted_snapshots] at found
        simp only [recorded, found, same, if_false]
        exact ⟨_, .inl rfl⟩

end Writing

/-- How far the entries are gone through: all of them, or up to a transfer that fails, or up to a snapshot
that cannot be written after its transfer. It tells the result, the snapshots and the transfers. -/
inductive Progress (failures : List (Operation × String))
    (outcomes : Nat → Except TransferFault TransferReport) (table : List (ObjectKey × Snapshot))
    (status : ResourceStatus) (entries : List ResourceEntry) :
    Except PassError ResourceStatus → List (ObjectKey × Snapshot) → List Attempt → Prop
  | completed (went : ∀ i < entries.length, ∃ report, outcomes i = .ok report) :
    Progress failures outcomes table status entries (.ok (applied status entries))
      (recordedFor r d entries table) (deliveries d outcomes entries)
  | untransferred (done : List ResourceEntry) (entry : ResourceEntry) (rest : List ResourceEntry)
      (fault : TransferFault) (split : entries = done ++ entry :: rest)
      (went : ∀ i < done.length, ∃ report, outcomes i = .ok report)
      (failed : outcomes done.length = .error fault) :
    Progress failures outcomes table status entries
      (.error (.transfer entry.name entry.version d.reference fault)) (recordedFor r d done table)
      (deliveries d outcomes (done ++ [entry]))
  | unrecorded (done : List ResourceEntry) (entry : ResourceEntry) (rest : List ResourceEntry)
      (c : Call) (e : StoreError) (split : entries = done ++ entry :: rest)
      (went : ∀ i < (done ++ [entry]).length, ∃ report, outcomes i = .ok report)
      (injected : MemoryStore.Injects failures c e) :
    Progress failures outcomes table status entries (.error (.snapshot r.snapshotKey e))
      (recordedFor r d done table) (deliveries d outcomes (done ++ [entry]))

/-- Progress after a first entry that was transferred and recorded. -/
theorem Progress.cons {failures : List (Operation × String)}
    {outcomes : Nat → Except TransferFault TransferReport} {table table' : List (ObjectKey × Snapshot)}
    {status : ResourceStatus} {entry : ResourceEntry} {entries : List ResourceEntry}
    {result : Except PassError ResourceStatus} {made : List Attempt}
    (first : ∃ report, outcomes 0 = .ok report)
    (later : Progress r d failures (fun n => outcomes (n + 1)) (recorded r d table)
      { status with lastAppliedVersion := some entry.version } entries result table' made) :
    Progress r d failures outcomes table status (entry :: entries) result table'
      (⟨d.reference, entry, outcomes 0⟩ :: made) := by
  have went {n : Nat} (h : ∀ i < n, ∃ report, outcomes (i + 1) = .ok report) :
      ∀ i < n + 1, ∃ report, outcomes i = .ok report := by
    intro i less
    cases i with
    | zero => exact first
    | succ i => exact h i (by omega)
  cases later with
  | completed h =>
    rw [recordedFor_cons r d entry, ← deliveries_cons]
    exact .completed (went h)
  | untransferred done last rest fault split h failed =>
    rw [recordedFor_cons r d entry, ← deliveries_cons]
    exact .untransferred (entry :: done) last rest fault (by rw [split]; rfl) (went h) failed
  | unrecorded done last rest c e split h injected =>
    rw [recordedFor_cons r d entry, ← deliveries_cons]
    exact .unrecorded (entry :: done) last rest c e (by rw [split]; rfl) (went h) injected

/-- The entries are gone through one by one; nothing but the snapshots changes in the store. -/
theorem applyEntries_progress (status : ResourceStatus) (entries : List ResourceEntry) (w : Setting) :
    ∃ result snapshots log outcomes,
      (applyEntries r d status entries).run Setting.answer w =
        (result, ⟨{ w.store with snapshots, log }, outcomes⟩) ∧
      Progress r d w.store.failures w.outcomes w.store.snapshots status entries result snapshots
        (attempts ((applyEntries r d status entries).history Setting.answer w)) := by
  -- The rest starts from the store in which the snapshot is recorded.
  induction entries generalizing status w with
  | nil => exact ⟨_, _, _, _, rfl, .completed (by simp)⟩
  | cons entry rest ih =>
    rw [applyEntries]
    simp only [Dialogue.bind_eq, Dialogue.run_bind, Dialogue.history_bind, Setting.run_transfer,
      attempts_append, Setting.attempts_transfer]
    cases outcome : w.outcomes 0 with
    | error fault =>
      have stopped : Progress r d w.store.failures w.outcomes w.store.snapshots status (entry :: rest)
          _ _ _ := .untransferred [] entry rest fault rfl (by simp) outcome
      have made : deliveries d w.outcomes ([] ++ [entry]) = [⟨d.reference, entry, .error fault⟩] := by
        rw [← outcome]; rfl
      rw [made] at stopped
      exact ⟨_, _, _, _, rfl, stopped⟩
    | ok report =>
      have first : ∃ report, w.outcomes 0 = .ok report := ⟨report, outcome⟩
      simp only [Dialogue.run_bind, Dialogue.history_bind, attempts_append, attempts_writeSnapshot,
        List.nil_append]
      obtain ⟨log, written | ⟨c, e, injected, failed⟩⟩ :=
        run_writeSnapshot r d { w with outcomes := fun n => w.outcomes (n + 1) }
      · rw [written]
        obtain ⟨result, snapshots, log, outcomes, run, later⟩ :=
          ih { status with lastAppliedVersion := some entry.version }
            { store := { w.store with snapshots := recorded r d w.store.snapshots, log := log }
              outcomes := fun n => w.outcomes (n + 1) }
        refine ⟨result, snapshots, log, outcomes, run, ?_⟩
        have whole := Progress.cons r d first later
        rw [outcome] at whole
        exact whole
      · rw [failed]
        refine ⟨_, _, _, _, rfl, ?_⟩
        have stopped : Progress r d w.store.failures w.outcomes w.store.snapshots status (entry :: rest)
          _ _ _ := .unrecorded [] entry rest c e rfl (by simpa using first) injected
        have made : deliveries d w.outcomes ([] ++ [entry]) = [⟨d.reference, entry, .ok report⟩] := by
          rw [← outcome]; rfl
        rw [made, recordedFor_nil] at stopped
        exact stopped

end Stowage.Pass
