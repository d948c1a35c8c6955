import Stowage.Proofs.Pass.Turn
import Stowage.Proofs.Slot

/-! What a pass asks, and in which order: the resource and the descriptor are looked up, the entries are
gone through, and the status is patched only once all of them are. -/
namespace Stowage

namespace Demand

def writesSnapshot : Demand → Bool
  | call (.createSnapshot _) | call (.updateSnapshot ..) => true
  | _ => false

def patchesStatus : Demand → Bool
  | call (.patchStatus ..) => true
  | _ => false

end Demand

def Event.succeeded : Event → Bool
  | ⟨.call _, .ok _⟩ => true
  | _ => false

namespace Pass

variable (registry : String) (fallback : Span) (key : ObjectKey)

/-- What is asked before the entries are gone through, and after the status is patched. -/
inductive Looks : Demand → Prop
  | resource : Looks (.call (.getResource key))
  | descriptor (k : ObjectKey) : Looks (.call (.getDescriptor k))
  | record (m : Meter) : Looks (.record m)

variable {key} in
theorem Looks.still {q : Demand} (h : Looks key q) :
    q.writesSnapshot = false ∧ q.patchesStatus = false := by
  cases h <;> exact ⟨rfl, rfl⟩

variable {key} in
theorem attempts_looks {h : List Event} (looks : ∀ e ∈ h, Looks key e.1) : attempts h = [] := by
  apply attempts_eq_nil
  rintro ⟨q, a⟩ member
  cases looks _ member <;> rfl

inductive Handles (r : Resource) (d : Destination) : Demand → Prop
  | transfer (entry : ResourceEntry) : Handles r d (.transfer d.reference entry)
  | write {q : Demand} (writes : Writes r d q) : Handles r d q

theorem Handles.unpatched {r : Resource} {d : Destination} {q : Demand} (h : Handles r d q) :
    q.patchesStatus = false := by
  rcases h with _ | ⟨_ | _ | _ | _⟩ <;> rfl

theorem applyEntries_asks (r : Resource) (d : Destination) (status : ResourceStatus)
    (entries : List ResourceEntry) :
    (applyEntries r d status entries).AsksOnly (Handles r d) := by
  induction entries generalizing status with
  | nil => trivial
  | cons entry rest ih =>
    refine Dialogue.AsksOnly.bind ⟨.transfer entry, fun _ => trivial⟩ ?_
    rintro (e | report)
    · trivial
    · refine Dialogue.AsksOnly.bind ((writeSnapshot_asks r d).mono fun _ => .write) ?_
      rintro (e | _)
      · trivial
      · exact ih _

/-- A first entry is transferred, then the snapshot is written, and then come the others. -/
theorem applyEntries_history_cons (r : Resource) (d : Destination) (status : ResourceStatus)
    (entry : ResourceEntry) (rest : List ResourceEntry) (w : Setting) :
    (applyEntries r d status (entry :: rest)).history Setting.answer w =
      ⟨.transfer d.reference entry, w.outcomes 0⟩ ::
        match w.outcomes 0 with
        | .error _ => []
        | .ok _ =>
          (writeSnapshot r d).history Setting.answer { w with outcomes := fun n => w.outcomes (n + 1) } ++
            match (writeSnapshot r d).run Setting.answer
              { w with outcomes := fun n => w.outcomes (n + 1) } with
            | (.error _, _) => []
            | (.ok _, v) =>
              (applyEntries r d { status with lastAppliedVersion := some entry.version } rest).history
                Setting.answer v := by
  rw [applyEntries]
  simp only [Dialogue.bind_eq, Dialogue.history_bind, Setting.run_transfer, Setting.history_transfer]
  cases w.outcomes 0 with
  | error fault => rfl
  | ok report =>
    simp only [Dialogue.history_bind, List.singleton_append]
    generalize (writeSnapshot r d).run Setting.answer _ = written
    obtain ⟨e | _, v⟩ := written <;> rfl

theorem applyEntries_run_cons (r : Resource) (d : Destination) (status : ResourceStatus)
    (entry : ResourceEntry) (rest : List ResourceEntry) {w v : Setting} {report : TransferReport}
    (delivered : w.outcomes 0 = .ok report)
    (written : (writeSnapshot r d).run Setting.answer
      { w with outcomes := fun n => w.outcomes (n + 1) } = (.ok (), v)) :
    (applyEntries r d status (entry :: rest)).run Setting.answer w =
      (applyEntries r d { status with lastAppliedVersion := some entry.version } rest).run
        Setting.answer v := by
  rw [applyEntries]
  simp only [Dialogue.bind_eq, Dialogue.run_bind, Setting.run_transfer, delivered, written]

def handleEntries (r : Resource) (c : ComponentDescriptor) : Demands (Except PassError ResourceStatus) :=
  applyEntries r (r.destination registry) (r.status.getD {}) (entriesFor r c)

/-- The status is patched only after all entries. -/
theorem settle_history (r : Resource) (c : ComponentDescriptor) (w : Setting) :
    (settle registry key r c).history Setting.answer w =
      (handleEntries registry r c).history Setting.answer w ++
        match (handleEntries registry r c).run Setting.answer w with
        | (.error _, _) => []
        | (.ok status, v) =>
          (patchStatus key (r.status.getD {}) (observed r status)).history Setting.answer v := by
  rw [settle, entriesNamed_eq]
  simp only [Dialogue.bind_eq, Dialogue.history_bind]
  rw [← handleEntries]
  generalize (handleEntries registry r c).run Setting.answer w = handled
  obtain ⟨e | status, v⟩ := handled <;> rfl

theorem attempts_settle (r : Resource) (c : ComponentDescriptor) (w : Setting) :
    attempts ((settle registry key r c).history Setting.answer w) =
      attempts ((handleEntries registry r c).history Setting.answer w) := by
  rw [settle_history, attempts_append]
  split
  · exact List.append_nil _
  · rw [attempts_patchStatus, List.append_nil]

/-- The result of a pass, the objects that it leaves and its history: it only looks around, or in between it
settles the resource that it found. -/
inductive Shape (w : Setting) : Except Failure Requeue → Objects → List Event → Prop
  | idle {result : Except Failure Requeue} {history : List Event}
      (looks : ∀ e ∈ history, Looks key e.1) : Shape w result w.store.objects history
  | busy {result : Except Failure Requeue} {o : Objects} {history : List Event} (r : Resource)
      (c : ComponentDescriptor) (v : Setting) (before after : List Event)
      (found : Table.get? key w.store.resources = some r)
      (described : Table.get? r.descriptorKey w.store.descriptors = some c)
      (alike : v.store.Alike w.store) (outcomes : v.outcomes = w.outcomes)
      (first : ∀ e ∈ before, Looks key e.1) (last : ∀ e ∈ after, Looks key e.1)
      (went : ((settle registry key r c).run Setting.answer v).1 = .ok () → ∃ q, result = .ok q)
      (left : o = ((settle registry key r c).run Setting.answer v).2.store.objects)
      (between : history = before ++ (settle registry key r c).history Setting.answer v ++ after) :
    Shape w result o history

variable {registry key} in
theorem Shape.around {w : Setting} {result : Except Failure Requeue} {o : Objects} {history : List Event}
    (h : Shape registry key w result o history) {before after : List Event}
    (first : ∀ e ∈ before, Looks key e.1) (last : ∀ e ∈ after, Looks key e.1) :
    Shape registry key w result o (before ++ history ++ after) := by
  cases h with
  | idle looks =>
    exact .idle (List.forall_mem_append.mpr ⟨List.forall_mem_append.mpr ⟨first, looks⟩, last⟩)
  | busy r c v before' after' found described alike outcomes first' last' went left between =>
    refine .busy r c v (before ++ before') (after' ++ after) found described alike outcomes
      (List.forall_mem_append.mpr ⟨first, first'⟩) (List.forall_mem_append.mpr ⟨last', last⟩) went left ?_
    simp only [between, List.append_assoc]

theorem converge_shape (w : Setting) :
    Shape registry key w ((converge registry fallback key).run Setting.answer w).1
      ((converge registry fallback key).run Setting.answer w).2.store.objects
      ((converge registry fallback key).history Setting.answer w) := by
  rw [converge]
  simp only [Dialogue.bind_eq, Dialogue.run_bind, Dialogue.history_bind, Setting.run_call,
    Setting.history_call]
  rcases w.store.answer_cases (.getResource key) with ⟨e, injected, h⟩ | h
  · rw [h]
    exact .idle (by simp [Looks.resource])
  rw [h, MemoryStore.perform]
  cases found : Table.get? key (w.store.noted (.getResource key)).resources with
  | none => exact .idle (by simp [Looks.resource])
  | some r =>
    simp only [Dialogue.run_bind, Dialogue.history_bind, Setting.run_call, Setting.history_call]
    rcases (w.store.noted (.getResource key)).answer_cases (.getDescriptor r.descriptorKey) with
      ⟨e, injected, h⟩ | h
    · rw [h]
      exact .idle (by simp [Looks.resource, Looks.descriptor])
    rw [h, MemoryStore.perform]
    cases described : Table.get? r.descriptorKey
      ((w.store.noted (.getResource key)).noted (.getDescriptor r.descriptorKey)).descriptors with
    | none =>
      refine .idle ?_
      simp [Dialogue.history_bind, Setting.history_record, Looks.resource, Looks.descriptor, Looks.record]
    | some c =>
      have first : ∀ e ∈ ([⟨.call (.getResource key), .ok (some r)⟩,
          ⟨.call (.getDescriptor r.descriptorKey), .ok (some c)⟩] : List Event), Looks key e.1 := by
        simp [Looks.resource, Looks.descriptor]
      simp only [Dialogue.run_bind, Dialogue.history_bind]
      refine .busy r c { w with store :=
        (w.store.noted (.getResource key)).noted (.getDescriptor r.descriptorKey) } _ [] found
        described ⟨rfl, rfl⟩ rfl first (by simp) ?_ ?_ ?_
      all_goals
        generalize (settle registry key r c).run Setting.answer _ = ended
        obtain ⟨e | _, _⟩ := ended
      · intro failed
        cases failed
      · exact fun _ => ⟨_, rfl⟩
      all_goals rfl

/-- Counting and measuring leave the shape as it is. -/
theorem run_shape (w : Setting) :
    Shape registry key w ((run registry fallback key).run Setting.answer w).1
      ((run registry fallback key).run Setting.answer w).2.store.objects
      ((run registry fallback key).history Setting.answer w) := by
  have shape := converge_shape registry fallback key w
  have first : ∀ e ∈ ([⟨.record .passes, ()⟩] : List Event), Looks key e.1 := by
    simp [Looks.record]
  rw [run]
  simp only [Dialogue.bind_eq, Dialogue.run_bind, Dialogue.history_bind, Setting.run_record,
    Setting.history_record]
  generalize (converge registry fallback key).run Setting.answer w = ended at shape ⊢
  obtain ⟨e | q, w'⟩ := ended
  · have last : ∀ e ∈ ([⟨.record .passLatency, ()⟩, ⟨.record .passErrors, ()⟩] : List Event),
        Looks key e.1 := by simp [Looks.record]
    simpa [Dialogue.run_bind, Dialogue.history_bind, Setting.history_record] using shape.around first last
  · have last : ∀ e ∈ ([⟨.record .passLatency, ()⟩] : List Event), Looks key e.1 := by
      simp [Looks.record]
    simpa using shape.around first last

end Pass

namespace Turn

variable (registry : String) (fallback : Span)

def events (t : Turn) (s : MemoryStore) : List Event :=
  (Pass.run registry fallback t.key).history Setting.answer (t.setting s)

def eventsOf : List Turn → MemoryStore → List Event
  | [], _ => []
  | t :: turns, s => t.events registry fallback s ++ eventsOf turns (t.store registry fallback s)

@[simp] theorem eventsOf_nil (s : MemoryStore) : eventsOf registry fallback [] s = [] := rfl

@[simp] theorem eventsOf_cons (t : Turn) (turns : List Turn) (s : MemoryStore) :
    eventsOf registry fallback (t :: turns) s =
      t.events registry fallback s ++ eventsOf registry fallback turns (t.store registry fallback s) := rfl

theorem attempts_events (t : Turn) (s : MemoryStore) :
    Stowage.attempts (t.events registry fallback s) = t.attempts registry fallback s := rfl

theorem shape (t : Turn) (s : MemoryStore) :
    Pass.Shape registry t.key (t.setting s) (t.result registry fallback s)
      (t.store registry fallback s).objects (t.events registry fallback s) :=
  Pass.run_shape registry fallback t.key (t.setting s)

end Turn
end Stowage
