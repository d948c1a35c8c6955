import Stowage.Proofs.Pass.Generation

/-! What passes leave alone, however they run into each other: descriptors, specs and metadata. A snapshot is
created once at most, and belongs to the resource that it was created for. -/
namespace Stowage

def Resource.fixed (r : Resource) : Metadata × ResourceSpec := (r.metadata, r.spec)

/-- What stays of the objects: all but statuses and references, and there may be more snapshots. -/
structure Frame (o o' : Objects) : Prop where
  descriptors : o'.descriptors = o.descriptors
  resources : ∀ k, (Table.get? k o'.resources).map Resource.fixed =
    (Table.get? k o.resources).map Resource.fixed
  snapshots : ∀ k p, Table.get? k o.snapshots = some p →
    ∃ p', Table.get? k o'.snapshots = some p' ∧ p'.metadata = p.metadata

theorem Frame.refl (o : Objects) : Frame o o := ⟨rfl, fun _ => rfl, fun _ p found => ⟨p, found, rfl⟩⟩

theorem Frame.trans {o o' o'' : Objects} (first : Frame o o') (second : Frame o' o'') : Frame o o'' where
  descriptors := second.descriptors.trans first.descriptors
  resources k := (second.resources k).trans (first.resources k)
  snapshots k p found := by
    obtain ⟨p', found', same⟩ := first.snapshots k p found
    obtain ⟨p'', found'', same'⟩ := second.snapshots k p' found'
    exact ⟨p'', found'', same'.trans same⟩

def Event.created? : Event → Option ObjectKey
  | ⟨.call (.createSnapshot p), .ok _⟩ => some p.key
  | _ => none

def creations (h : List Event) : List ObjectKey := h.filterMap Event.created?

theorem creations_append (h h' : List Event) : creations (h ++ h') = creations h ++ creations h' :=
  List.filterMap_append

inductive Call.Change (o : Objects) : (c : Call) → c.Answer → Objects → Prop
  | none {c : Call} {a : c.Answer} (uncreated : Event.created? ⟨.call c, a⟩ = none) : Change o c a o
  | created (p : Snapshot) (absent : Table.get? p.key o.snapshots = none) :
    Change o (.createSnapshot p) (.ok p) { o with snapshots := Table.put p.key p o.snapshots }
  | updated (key : ObjectKey) (spec : SnapshotSpec) (p : Snapshot)
      (found : Table.get? key o.snapshots = some p) :
    Change o (.updateSnapshot key spec) (.ok { p with spec })
      { o with snapshots := Table.put key { p with spec } o.snapshots }
  | patched (key : ObjectKey) (patch : Document) (r : Resource) (status : ResourceStatus)
      (found : Table.get? key o.resources = some r) :
    Change o (.patchStatus key patch) (.ok ())
      { o with resources := Table.put key { r with status := some status } o.resources }

theorem MemoryStore.answer_change (s : MemoryStore) (c : Call) :
    Call.Change s.objects c (s.answer c).1 (s.answer c).2.objects := by
  rcases s.answer_cases c with ⟨e, -, failed⟩ | performed
  · rw [failed]
    exact .none (by cases c <;> rfl)
  rw [performed]
  cases c with
  | getResource | getDescriptor | getSnapshot => exact .none rfl
  | createSnapshot p =>
    cases absent : Table.get? p.key s.snapshots with
    | some current =>
      simp only [perform, noted_snapshots, absent]
      exact .none rfl
    | none =>
      simp only [perform, noted_snapshots, absent]
      exact .created p absent
  | updateSnapshot key spec =>
    cases found : Table.get? key s.snapshots with
    | none =>
      simp only [perform, noted_snapshots, found]
      exact .none rfl
    | some p =>
      simp only [perform, noted_snapshots, found]
      exact .updated key spec p found
  | patchStatus key patch =>
    cases found : Table.get? key s.resources with
    | none =>
      simp only [perform, noted_resources, found]
      exact .none rfl
    | some r =>
      simp only [perform, noted_resources, found]
      cases patchedStatus r patch with
      | error misfit => exact .none rfl
      | ok status => exact .patched key patch r status found

/-- Whether there is a snapshot. -/
def present (key : ObjectKey) (o : Objects) : Nat := if (Table.get? key o.snapshots).isSome then 1 else 0

theorem present_cases (key : ObjectKey) (o : Objects) :
    (present key o = 0 ∧ Table.get? key o.snapshots = none) ∨
      present key o = 1 ∧ ∃ p, Table.get? key o.snapshots = some p := by
  unfold present
  cases Table.get? key o.snapshots with
  | none => exact .inl ⟨rfl, rfl⟩
  | some p => exact .inr ⟨rfl, p, rfl⟩

namespace Call.Change

variable {o o' : Objects} {c : Call} {a : c.Answer}

theorem frame (change : Change o c a o') : Frame o o' := by
  cases change with
  | none => exact .refl o
  | created p absent =>
    refine ⟨rfl, fun _ => rfl, fun k p' found => ⟨p', ?_, rfl⟩⟩
    have apart : k ≠ p.key := fun same => by
      rw [same, absent] at found
      cases found
    exact (Table.get?_put_other apart ..).trans found
  | updated key spec p found =>
    refine ⟨rfl, fun _ => rfl, fun k p' found' => ?_⟩
    by_cases same : k = key
    · subst same
      rw [found] at found'
      cases found'
      exact ⟨_, Table.get?_put_same .., rfl⟩
    · exact ⟨p', (Table.get?_put_other same ..).trans found', rfl⟩
  | patched key patch r status found =>
    refine ⟨rfl, fun k => ?_, fun _ p found' => ⟨p, found', rfl⟩⟩
    by_cases same : k = key
    · subst same
      simp only [Table.get?_put_same, found, Option.map_some]
      rfl
    · simp only [Table.get?_put_other same]

/-- A snapshot comes to be exactly when it is created. -/
theorem balance (change : Change o c a o') (k : ObjectKey) :
    present k o' = present k o + (creations [⟨.call c, a⟩]).count k := by
  cases change with
  | none uncreated => simp [creations, uncreated]
  | created p absent =>
    by_cases same : k = p.key
    · subst same
      simp [present, absent, creations, Event.created?]
    · simp [present, Table.get?_put_other same, creations, Event.created?, Ne.symm same]
  | updated key spec p found =>
    have still : creations [⟨.call (.updateSnapshot key spec), .ok { p with spec }⟩] = [] := rfl
    by_cases same : k = key
    · subst same
      simp [present, found, still]
    · simp [present, Table.get?_put_other same, still]
  | patched key patch r status found =>
    have still : creations [⟨.call (.patchStatus key patch), .ok ()⟩] = [] := rfl
    simp [present, still]

/-- The metadata of a snapshot was there before, or is that of one just created. -/
theorem metadata_origin (change : Change o c a o') {k : ObjectKey} {p' : Snapshot}
    (found' : Table.get? k o'.snapshots = some p') :
    (∃ p, Table.get? k o.snapshots = some p ∧ p'.metadata = p.metadata) ∨
      k = p'.key ∧ c = .createSnapshot p' := by
  cases change with
  | none | patched => exact .inl ⟨p', found', rfl⟩
  | created p absent =>
    by_cases same : k = p.key
    · subst same
      rw [Table.get?_put_same] at found'
      cases found'
      exact .inr ⟨rfl, rfl⟩
    · rw [Table.get?_put_other same] at found'
      exact .inl ⟨p', found', rfl⟩
  | updated key spec p found =>
    by_cases same : k = key
    · subst same
      rw [Table.get?_put_same] at found'
      cases found'
      exact .inl ⟨p, found, rfl⟩
    · rw [Table.get?_put_other same] at found'
      exact .inl ⟨p', found', rfl⟩

end Call.Change

def Thread.asked {α : Type} (th : Thread α) (s : MemoryStore) : List Event := (th.remaining s).take 1

/-- A thread that advances makes a call or leaves the objects as they are. -/
theorem Thread.advance_change {α : Type} (th : Thread α) (s : MemoryStore) :
    ((th.advance s).2.objects = s.objects ∧ creations (th.asked s) = []) ∨
      ∃ c a, th.asked s = [⟨.call c, a⟩] ∧ Call.Change s.objects c a (th.advance s).2.objects := by
  obtain ⟨_ | ⟨q, next⟩, outcomes, history⟩ := th
  · exact .inl ⟨rfl, rfl⟩
  · cases q with
    | call c => exact .inr ⟨c, _, rfl, s.answer_change c⟩
    | transfer | record => exact .inl ⟨rfl, rfl⟩

/-- What can happen to threads over a store: one of them advances, or other calls fail from now on. -/
inductive Move (n : Nat) where
  | turn (i : Fin n)
  | disturb (failures : List (Operation × String))

namespace Scene

variable {n : Nat} {α : Type}

def step (sc : Scene n α) : Move n → Scene n α
  | .turn i => sc.advance i
  | .disturb failures => { sc with store := { sc.store with failures } }

def asked (sc : Scene n α) : Move n → List Event
  | .turn i => (sc.threads i).asked sc.store
  | .disturb _ => []

def run (moves : List (Move n)) (sc : Scene n α) : Scene n α := moves.foldl step sc

def trace : List (Move n) → Scene n α → List Event
  | [], _ => []
  | m :: moves, sc => sc.asked m ++ trace moves (sc.step m)

@[simp] theorem run_nil (sc : Scene n α) : sc.run [] = sc := rfl

@[simp] theorem run_cons (m : Move n) (moves : List (Move n)) (sc : Scene n α) :
    sc.run (m :: moves) = (sc.step m).run moves := rfl

theorem run_append (moves later : List (Move n)) (sc : Scene n α) :
    sc.run (moves ++ later) = (sc.run moves).run later := List.foldl_append

theorem step_frame (sc : Scene n α) (m : Move n) :
    Frame sc.store.objects (sc.step m).store.objects := by
  cases m with
  | disturb failures => exact .refl _
  | turn i =>
    rcases (sc.threads i).advance_change sc.store with ⟨same, -⟩ | ⟨c, a, -, change⟩
    · rw [step, store_advance, same]
      exact .refl _
    · exact change.frame

theorem run_frame (moves : List (Move n)) (sc : Scene n α) :
    Frame sc.store.objects (sc.run moves).store.objects := by
  induction moves generalizing sc with
  | nil => exact .refl _
  | cons m moves ih => exact (sc.step_frame m).trans (ih (sc.step m))

theorem step_balance (sc : Scene n α) (m : Move n) (k : ObjectKey) :
    present k (sc.step m).store.objects =
      present k sc.store.objects + (creations (sc.asked m)).count k := by
  cases m with
  | disturb failures => rfl
  | turn i =>
    rcases (sc.threads i).advance_change sc.store with ⟨same, none⟩ | ⟨c, a, asked, change⟩
    · rw [step, store_advance, same, Scene.asked, none]
      rfl
    · rw [Scene.asked, asked]
      exact change.balance k

/-- The snapshots at the end are those at the start and those that were created. -/
theorem run_balance (moves : List (Move n)) (sc : Scene n α) (k : ObjectKey) :
    present k (sc.run moves).store.objects =
      present k sc.store.objects + (creations (sc.trace moves)).count k := by
  induction moves generalizing sc with
  | nil => rfl
  | cons m moves ih =>
    rw [run_cons, ih, step_balance, trace, creations_append, List.count_append, Nat.add_assoc]

/-- No snapshot is created twice. -/
theorem creations_nodup (moves : List (Move n)) (sc : Scene n α) : (creations (sc.trace moves)).Nodup := by
  rw [List.nodup_iff_count_le_one]
  intro k
  have balance := sc.run_balance moves k
  rcases present_cases k (sc.run moves).store.objects with ⟨after, -⟩ | ⟨after, -⟩ <;> omega

/-- The snapshots that were created are those that were not there and are. -/
theorem mem_creations_iff (moves : List (Move n)) (sc : Scene n α) (k : ObjectKey) :
    k ∈ creations (sc.trace moves) ↔ Table.get? k sc.store.snapshots = none ∧
      ∃ p, Table.get? k (sc.run moves).store.snapshots = some p := by
  have balance := sc.run_balance moves k
  rw [← List.count_pos_iff]
  constructor
  · intro created
    rcases present_cases k sc.store.objects with ⟨-, absent⟩ | ⟨before, -⟩ <;>
      rcases present_cases k (sc.run moves).store.objects with ⟨after, -⟩ | ⟨after, found⟩
    · omega
    · exact ⟨absent, found⟩
    · omega
    · omega
  · rintro ⟨absent, p, found⟩
    have before : present k sc.store.objects = 0 := by
      simp [present, MemoryStore.objects, absent]
    have after : present k (sc.run moves).store.objects = 1 := by
      simp [present, MemoryStore.objects, found]
    omega

end Scene
end Stowage
