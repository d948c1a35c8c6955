import Stowage.Proofs.Pass.Entries

/-! The courses that a pass can take. Each tells the result, the objects afterwards and the transfers, and
what of the setting makes the pass go that way. -/
namespace Stowage.Pass

variable (registry : String) (fallback : Span) (key : ObjectKey)

/-- The resources once a status is observed: one that did not change is not written. -/
def patched (r : Resource) (after : ResourceStatus) (table : List (ObjectKey × Resource)) :
    List (ObjectKey × Resource) :=
  if r.status.getD {} = after then table else Table.put key { r with status := some after } table

theorem patched_eq_self {r : Resource} {after : ResourceStatus} (same : r.status.getD {} = after)
    (table : List (ObjectKey × Resource)) : patched key r after table = table := if_pos same

/-- What a resource is once its status was patched. -/
theorem get?_patched {r : Resource} {table : List (ObjectKey × Resource)}
    (found : Table.get? key table = some r) (after : ResourceStatus) :
    ∃ status, Table.get? key (patched key r after table) = some { r with status } ∧
      status.getD {} = after := by
  unfold patched
  split
  next same => exact ⟨r.status, found, same⟩
  next => exact ⟨some after, Table.get?_put_same .., rfl⟩

theorem get?_patched_other {other : ObjectKey} (apart : other ≠ key) (r : Resource)
    (after : ResourceStatus) (table : List (ObjectKey × Resource)) :
    Table.get? other (patched key r after table) = Table.get? other table := by
  unfold patched
  split
  · rfl
  · exact Table.get?_put_other apart ..

@[simp] theorem observed_lastAppliedVersion (r : Resource) (status : ResourceStatus) :
    (observed r status).lastAppliedVersion = status.lastAppliedVersion := by
  unfold observed
  split <;> rfl

@[simp] theorem observed_observedGeneration (r : Resource) (status : ResourceStatus) :
    (observed r status).observedGeneration =
      r.metadata.generation.or status.observedGeneration := by
  unfold observed
  split
  next known => rw [known]; rfl
  next unknown => rw [unknown]; rfl

def requeue (r : Resource) : Requeue := .every (r.interval fallback)

def entriesFor (r : Resource) (c : ComponentDescriptor) : List ResourceEntry :=
  c.spec.resources.filter (·.name = r.spec.resource.name)

theorem entriesNamed_eq (r : Resource) (c : ComponentDescriptor) :
    c.entriesNamed r.spec.resource.name = entriesFor r c := rfl

/-- The status that the entries lead to. -/
def settledStatus (r : Resource) (c : ComponentDescriptor) : ResourceStatus :=
  observed r (applied (r.status.getD {}) (entriesFor r c))

theorem settledStatus_eq (r : Resource) (c : ComponentDescriptor) :
    settledStatus r c =
      { observedGeneration := r.metadata.generation.or (r.status.getD {}).observedGeneration
        lastAppliedVersion := ((entriesFor r c).getLast?.map ResourceEntry.version).or
          (r.status.getD {}).lastAppliedVersion } := by
  ext1
  · simp only [settledStatus, observed_observedGeneration, applied_observedGeneration]
  · simp only [settledStatus, observed_lastAppliedVersion, applied_lastAppliedVersion]

abbrev Advances (r : Resource) (c : ComponentDescriptor) (w : Setting) :=
  Progress r (r.destination registry) w.store.failures w.outcomes w.store.snapshots
    (r.status.getD {}) (entriesFor r c)

/-- The result of a pass, the objects that it leaves and the transfers that it made. -/
inductive Course (w : Setting) : Except Failure Requeue → Objects → List Attempt → Prop
  | unloaded (e : StoreError) (injected : MemoryStore.Injects w.store.failures (.getResource key) e) :
    Course w (.error ⟨.loadResource key e, .never⟩) w.store.objects []
  | gone (absent : Table.get? key w.store.resources = none) : Course w (.ok .never) w.store.objects []
  | undescribed (r : Resource) (e : StoreError) (found : Table.get? key w.store.resources = some r)
      (injected : MemoryStore.Injects w.store.failures (.getDescriptor r.descriptorKey) e) :
    Course w (.error ⟨.loadDescriptor r.descriptorKey e, requeue fallback r⟩) w.store.objects []
  | pending (r : Resource) (found : Table.get? key w.store.resources = some r)
      (absent : Table.get? r.descriptorKey w.store.descriptors = none) :
    Course w (.ok (requeue fallback r)) w.store.objects []
  | broken (r : Resource) (c : ComponentDescriptor) (e : PassError)
      (snapshots : List (ObjectKey × Snapshot)) (made : List Attempt)
      (found : Table.get? key w.store.resources = some r)
      (described : Table.get? r.descriptorKey w.store.descriptors = some c)
      (progress : Advances registry r c w (.error e) snapshots made) :
    Course w (.error ⟨e, requeue fallback r⟩) { w.store.objects with snapshots } made
  | unpatched (r : Resource) (c : ComponentDescriptor) (status : ResourceStatus) (patch : Document)
      (e : StoreError) (snapshots : List (ObjectKey × Snapshot)) (made : List Attempt)
      (found : Table.get? key w.store.resources = some r)
      (described : Table.get? r.descriptorKey w.store.descriptors = some c)
      (progress : Advances registry r c w (.ok status) snapshots made)
      (injected : MemoryStore.Injects w.store.failures (.patchStatus key patch) e) :
    Course w (.error ⟨.patchStatus key e, requeue fallback r⟩) { w.store.objects with snapshots } made
  | settled (r : Resource) (c : ComponentDescriptor) (status : ResourceStatus)
      (snapshots : List (ObjectKey × Snapshot)) (made : List Attempt)
      (found : Table.get? key w.store.resources = some r)
      (described : Table.get? r.descriptorKey w.store.descriptors = some c)
      (progress : Advances registry r c w (.ok status) snapshots made) :
    Course w (.ok (requeue fallback r))
      { w.store.objects with
        resources := patched key r (observed r status) w.store.resources, snapshots } made

/-- What is asked for to patch the status. -/
theorem run_patchStatus (w : Setting) {r : Resource} {before : ResourceStatus} (after : ResourceStatus)
    (found : Table.get? key w.store.resources = some r) (loaded : r.status.getD {} = before) :
    (∃ patch e, MemoryStore.Injects w.store.failures (.patchStatus key patch) e ∧
      ((patchStatus key before after).run Setting.answer w).1 = .error (.patchStatus key e) ∧
      ((patchStatus key before after).run Setting.answer w).2.store.objects = w.store.objects) ∨
    ((patchStatus key before after).run Setting.answer w).1 = .ok () ∧
      ((patchStatus key before after).run Setting.answer w).2.store.objects =
        { w.store.objects with resources := patched key r after w.store.resources } := by
  rw [patchStatus]
  cases changed : before.patch? after with
  | none =>
    have same := ResourceStatus.patch?_eq_none_iff.mp changed
    refine .inr ⟨rfl, ?_⟩
    simp only [patched, loaded, same, if_true]
    rfl
  | some patch =>
    have differ : before ≠ after := fun same => by
      rw [ResourceStatus.patch?_eq_none_iff.mpr same] at changed
      cases changed
    simp only [Dialogue.bind_eq, Dialogue.run_bind, Setting.run_call]
    rcases MemoryStore.answer_patchStatus found loaded changed with ⟨e, injected, h⟩ | h
    · rw [h]
      exact .inl ⟨patch, e, injected, rfl, rfl⟩
    · rw [h]
      refine .inr ⟨rfl, ?_⟩
      simp only [patched, loaded, differ, if_false]
      rfl

theorem patchStatus_asks (before after : ResourceStatus) :
    (patchStatus key before after).AsksOnly fun q => ∃ patch, q = .call (.patchStatus key patch) := by
  rw [patchStatus]
  cases before.patch? after with
  | none => trivial
  | some patch =>
    refine Dialogue.AsksOnly.bind ⟨⟨patch, rfl⟩, fun _ => trivial⟩ ?_
    rintro (e | _) <;> trivial

theorem attempts_patchStatus (before after : ResourceStatus) (w : Setting) :
    attempts ((patchStatus key before after).history Setting.answer w) = [] := by
  apply attempts_eq_nil
  rintro ⟨q, a⟩ member
  obtain ⟨patch, rfl⟩ := (patchStatus_asks key before after).history Setting.answer w _ member
  rfl

/-- With the resource and the descriptor loaded, the pass goes on as one of the courses from the store that
they were loaded from. -/
theorem settle_course (r : Resource) (c : ComponentDescriptor) (w v : Setting)
    (found : Table.get? key v.store.resources = some r)
    (described : Table.get? r.descriptorKey v.store.descriptors = some c)
    (objects : w.store.objects = v.store.objects) (failures : w.store.failures = v.store.failures)
    (outcomes : w.outcomes = v.outcomes) :
    (∃ e, ((settle registry key r c).run Setting.answer w).1 = .error e ∧
      Course registry fallback key v (.error ⟨e, requeue fallback r⟩)
        ((settle registry key r c).run Setting.answer w).2.store.objects
        (attempts ((settle registry key r c).history Setting.answer w))) ∨
    ((settle registry key r c).run Setting.answer w).1 = .ok () ∧
      Course registry fallback key v (.ok (requeue fallback r))
        ((settle registry key r c).run Setting.answer w).2.store.objects
        (attempts ((settle registry key r c).history Setting.answer w)) := by
  have resources : w.store.resources = v.store.resources := congrArg Objects.resources objects
  have descriptors : w.store.descriptors = v.store.descriptors := congrArg Objects.descriptors objects
  have snapshots : w.store.snapshots = v.store.snapshots := congrArg Objects.snapshots objects
  -- The store is that of the setting but for the two calls it noted, so every part of it can be read there.
  rw [settle, entriesNamed_eq]
  simp only [Dialogue.bind_eq, Dialogue.run_bind, Dialogue.history_bind]
  obtain ⟨result, table, log, rest, run, progress⟩ := applyEntries_progress r (r.destination registry)
    (r.status.getD {}) (entriesFor r c) w
  rw [failures, outcomes, snapshots] at progress
  rw [run]
  cases result with
  | error e =>
    refine .inl ⟨e, rfl, ?_⟩
    have course : Course registry fallback key v _ _ _ :=
      .broken r c e table _ found described progress
    simpa [MemoryStore.objects, resources, descriptors] using course
  | ok status =>
    have held : Table.get? key w.store.resources = some r := by rw [resources]; exact found
    simp only [attempts_append, attempts_patchStatus, List.append_nil]
    rcases run_patchStatus key ⟨{ w.store with snapshots := table, log := log }, rest⟩
      (observed r status) held rfl with ⟨patch, e, injected, failed, left⟩ | ⟨done, left⟩
    · refine .inl ⟨_, failed, ?_⟩
      rw [left]
      rw [failures] at injected
      have course : Course registry fallback key v _ _ _ :=
        .unpatched r c status patch e table _ found described progress injected
      simpa [MemoryStore.objects, resources, descriptors] using course
    · refine .inr ⟨done, ?_⟩
      rw [left]
      have course : Course registry fallback key v _ _ _ :=
        .settled r c status table _ found described progress
      simpa [MemoryStore.objects, resources, descriptors] using course

theorem converge_course (w : Setting) :
    Course registry fallback key w ((converge registry fallback key).run Setting.answer w).1
      ((converge registry fallback key).run Setting.answer w).2.store.objects
      (attempts ((converge registry fallback key).history Setting.answer w)) := by
  rw [converge]
  simp only [Dialogue.bind_eq, Dialogue.run_bind, Dialogue.history_bind, Setting.run_call,
    attempts_append, Setting.attempts_call, List.nil_append]
  rcases w.store.answer_cases (.getResource key) with ⟨e, injected, h⟩ | h
  · rw [h]
    exact .unloaded e injected
  rw [h, MemoryStore.perform]
  cases found : Table.get? key (w.store.noted (.getResource key)).resources with
  | none => exact .gone found
  | some r =>
    simp only [Dialogue.run_bind, Dialogue.history_bind, Setting.run_call, attempts_append,
      Setting.attempts_call, List.nil_append]
    rcases (w.store.noted (.getResource key)).answer_cases (.getDescriptor r.descriptorKey) with
      ⟨e, injected, h⟩ | h
    · rw [h]
      exact .undescribed r e found injected
    rw [h, MemoryStore.perform]
    cases described : Table.get? r.descriptorKey
      ((w.store.noted (.getResource key)).noted (.getDescriptor r.descriptorKey)).descriptors with
    | none => exact .pending r found described
    | some c =>
      simp only [Dialogue.run_bind, Dialogue.history_bind, attempts_append]
      rcases settle_course registry fallback key r c
        { w with store :=
          (w.store.noted (.getResource key)).noted (.getDescriptor r.descriptorKey) } w
        found described rfl rfl rfl with ⟨e, failed, course⟩ | ⟨done, course⟩
      · rw [failed]
        simpa only [Dialogue.pure_eq, Dialogue.run_done, Dialogue.history_done, attempts_nil,
          List.append_nil, requeue] using course
      · rw [done]
        simpa only [Dialogue.pure_eq, Dialogue.run_done, Dialogue.history_done, attempts_nil,
          List.append_nil, requeue] using course

/-- Counting and measuring leave the course as it is. -/
theorem run_course (w : Setting) :
    Course registry fallback key w ((run registry fallback key).run Setting.answer w).1
      ((run registry fallback key).run Setting.answer w).2.store.objects
      (attempts ((run registry fallback key).history Setting.answer w)) := by
  have course := converge_course registry fallback key w
  rw [run]
  simp only [Dialogue.bind_eq, Dialogue.run_bind, Dialogue.history_bind, Setting.run_record,
    attempts_append, Setting.attempts_record, List.nil_append]
  generalize (converge registry fallback key).run Setting.answer w = ended at course ⊢
  obtain ⟨e | q, w'⟩ := ended
  · simpa [Dialogue.run_bind, Dialogue.history_bind] using course
  · simpa using course

end Stowage.Pass
