import Stowage.Proofs.Pass.Turn

/-! Passes over one resource that are tried again. However far the passes before got, what is left to do
leads to the same objects. -/
namespace Stowage.Pass

variable (registry : String) (fallback : Span) (key : ObjectKey)

/-- The objects that a pass makes of the given ones, if it goes through. -/
def goal (o : Objects) : Objects :=
  match Table.get? key o.resources with
  | none => o
  | some r =>
    match Table.get? r.descriptorKey o.descriptors with
    | none => o
    | some c =>
      { o with
        resources := patched key r (settledStatus r c) o.resources
        snapshots := recordedFor r (r.destination registry) (entriesFor r c) o.snapshots }

/-- Each table is as it was or as it is to be. -/
structure Partway (start o : Objects) : Prop where
  resources : o.resources = start.resources ∨ o.resources = (goal registry key start).resources
  descriptors : o.descriptors = start.descriptors
  snapshots : o.snapshots = start.snapshots ∨ o.snapshots = (goal registry key start).snapshots

theorem Partway.refl (o : Objects) : Partway registry key o o := ⟨.inl rfl, rfl, .inl rfl⟩

variable {registry key}

theorem goal_of_absent {o : Objects} (absent : Table.get? key o.resources = none) :
    goal registry key o = o := by
  simp only [goal, absent]

theorem goal_of_undescribed {o : Objects} {r : Resource} (found : Table.get? key o.resources = some r)
    (absent : Table.get? r.descriptorKey o.descriptors = none) : goal registry key o = o := by
  simp only [goal, found, absent]

theorem goal_of_described {o : Objects} {r : Resource} {c : ComponentDescriptor}
    (found : Table.get? key o.resources = some r)
    (described : Table.get? r.descriptorKey o.descriptors = some c) :
    goal registry key o =
      { o with
        resources := patched key r (settledStatus r c) o.resources
        snapshots := recordedFor r (r.destination registry) (entriesFor r c) o.snapshots } := by
  simp only [goal, found, described]

/-- Once a status is settled, the same entries lead to it again. -/
theorem settledStatus_again (r : Resource) (c : ComponentDescriptor) {status : Option ResourceStatus}
    (settled : status.getD {} = settledStatus r c) :
    settledStatus { r with status } c = settledStatus r c := by
  rw [settledStatus_eq] at settled
  simp only [settledStatus_eq, settled, entriesFor]
  ext1
  · cases r.metadata.generation <;> rfl
  · cases (c.spec.resources.filter (·.name = r.spec.resource.name)).getLast? <;> rfl

namespace Partway

variable {start o : Objects}

theorem eq_start (h : Partway registry key start o) (still : goal registry key start = start) :
    o = start := by
  obtain ⟨resources, descriptors, snapshots⟩ := h
  rw [still, or_self] at resources snapshots
  cases o; cases start
  cases resources; cases descriptors; cases snapshots
  rfl

/-- Whether its status is patched yet or not, the resource is led to the same one. -/
theorem stored (h : Partway registry key start o) {r : Resource} {c : ComponentDescriptor}
    (found : Table.get? key start.resources = some r)
    (described : Table.get? r.descriptorKey start.descriptors = some c) :
    ∃ status, Table.get? key o.resources = some { r with status } ∧
      patched key { r with status } (settledStatus { r with status } c) o.resources =
        (goal registry key start).resources := by
  rw [goal_of_described found described]
  rcases h.resources with before | after
  · exact ⟨r.status, by rw [before]; exact found, by rw [before]⟩
  · rw [goal_of_described found described] at after
    -- The status is settled already, so that patching it again changes nothing.
    obtain ⟨status, stored, settled⟩ := get?_patched key found (settledStatus r c)
    refine ⟨status, by rw [after]; exact stored, ?_⟩
    rw [settledStatus_again r c settled, after]
    exact patched_eq_self key settled _

/-- What is left to do leads to the same objects. -/
theorem goal_eq (h : Partway registry key start o) : goal registry key o = goal registry key start := by
  cases found : Table.get? key start.resources with
  | none => rw [h.eq_start (goal_of_absent found)]
  | some r =>
    cases described : Table.get? r.descriptorKey start.descriptors with
    | none => rw [h.eq_start (goal_of_undescribed found described)]
    | some c =>
      obtain ⟨status, stored, resources⟩ := h.stored found described
      have kept : Table.get? { r with status : Resource }.descriptorKey o.descriptors = some c := by
        rw [h.descriptors]; exact described
      rw [goal_of_described stored kept, resources, h.descriptors]
      rw [goal_of_described found described]
      have snapshots : recordedFor r (r.destination registry) (entriesFor r c) o.snapshots =
          recordedFor r (r.destination registry) (entriesFor r c) start.snapshots := by
        rcases h.snapshots with before | after
        · rw [before]
        · rw [after, goal_of_described found described]
          exact recordedFor_recordedFor ..
      exact congrArg (Objects.mk _ _) snapshots

theorem trans {middle : Objects} (first : Partway registry key start middle)
    (later : Partway registry key middle o) : Partway registry key start o where
  resources := by
    rcases later.resources with same | reached
    · rw [same]; exact first.resources
    · rw [reached, first.goal_eq]; exact .inr rfl
  descriptors := later.descriptors.trans first.descriptors
  snapshots := by
    rcases later.snapshots with same | reached
    · rw [same]; exact first.snapshots
    · rw [reached, first.goal_eq]; exact .inr rfl

end Partway

section Course

variable {fallback} {w : Setting} {result : Except Failure Requeue} {o : Objects} {made : List Attempt}

/-- Wherever a pass stops, no table is left between what it was and what it is to be. -/
theorem Course.partway (h : Course registry fallback key w result o made) :
    Partway registry key w.store.objects o := by
  cases h with
  | unloaded | gone | undescribed | pending => exact .refl ..
  | broken r c e snapshots _ found described progress =>
    refine ⟨.inl rfl, rfl, ?_⟩
    rw [goal_of_described found described]
    cases progress with
    | untransferred done entry rest _ split | unrecorded done entry rest _ _ split =>
      exact split ▸ recordedFor_append r (r.destination registry) done (entry :: rest) _
  | unpatched r c status patch e snapshots _ found described progress =>
    refine ⟨.inl rfl, rfl, ?_⟩
    rw [goal_of_described found described]
    cases progress
    exact .inr rfl
  | settled r c status snapshots _ found described progress =>
    refine ⟨?_, rfl, ?_⟩
    · rw [goal_of_described found described]
      cases progress
      exact .inr rfl
    · rw [goal_of_described found described]
      cases progress
      exact .inr rfl

theorem Course.reaches {q : Requeue} (h : Course registry fallback key w (.ok q) o made) :
    o = goal registry key w.store.objects := by
  cases h with
  | gone absent => exact (goal_of_absent absent).symm
  | pending r found absent => exact (goal_of_undescribed found absent).symm
  | settled r c status snapshots _ found described progress =>
    rw [goal_of_described found described]
    cases progress
    rfl

/-- A pass goes through where nothing is set to fail. -/
theorem Course.goes_through (h : Course registry fallback key w result o made)
    (quiet : w.store.failures = []) (delivered : ∀ n, ∃ report, w.outcomes n = .ok report) :
    ∃ q, result = .ok q := by
  have calm (c : Call) (e : StoreError) : ¬ MemoryStore.Injects w.store.failures c e := by
    rw [quiet]; exact MemoryStore.not_injects_nil c e
  cases h with
  | gone | pending | settled => exact ⟨_, rfl⟩
  | unloaded e injected => exact (calm _ _ injected).elim
  | undescribed r e found injected => exact (calm _ _ injected).elim
  | unpatched r c status patch e snapshots _ found described progress injected =>
    exact (calm _ _ injected).elim
  | broken r c e snapshots _ found described progress =>
    cases progress with
    | untransferred done entry rest fault split went failed =>
      obtain ⟨report, ok⟩ := delivered done.length
      rw [failed] at ok
      cases ok
    | unrecorded done entry rest c e split went injected => exact (calm _ _ injected).elim

end Course

end Stowage.Pass

namespace Stowage.Turn

variable {registry : String} {fallback : Span} {key : ObjectKey}

/-- Passes over one key leave the objects partway to what one pass would make of them. -/
theorem after_partway (turns : List Turn) (same : ∀ t ∈ turns, t.key = key) (s : MemoryStore) :
    Pass.Partway registry key s.objects (after registry fallback turns s).objects := by
  induction turns generalizing s with
  | nil => exact .refl ..
  | cons t turns ih =>
    have first := (t.course registry fallback s).partway
    rw [same t (.head _)] at first
    exact first.trans (ih (fun t member => same t (.tail _ member)) _)

/-- However the passes before it ended, a pass that goes through leaves the objects that one pass without
any failure leaves. -/
theorem objects_of_retries (registry : String) (fallback : Span) (key : ObjectKey) (s : MemoryStore)
    (earlier : List Turn) (last : Turn) (same : ∀ t ∈ earlier ++ [last], t.key = key) (q : Requeue)
    (ended : last.result registry fallback (after registry fallback earlier s) = .ok q)
    (reports : Nat → TransferReport) :
    (∃ q, (undisturbed key reports).result registry fallback s = .ok q) ∧
    (after registry fallback (earlier ++ [last]) s).objects =
      ((undisturbed key reports).store registry fallback s).objects := by
  have partway : Pass.Partway registry key s.objects (after registry fallback earlier s).objects :=
    after_partway earlier (fun t member => same t (List.mem_append_left _ member)) s
  have direct := (undisturbed key reports).course registry fallback s
  obtain ⟨q', through⟩ := direct.goes_through rfl fun n => ⟨reports n, rfl⟩
  rw [through] at direct
  have retried := last.course registry fallback (after registry fallback earlier s)
  rw [ended, same last (by simp)] at retried
  refine ⟨⟨q', through⟩, ?_⟩
  calc (after registry fallback (earlier ++ [last]) s).objects
      = (last.store registry fallback (after registry fallback earlier s)).objects := by
        rw [after_concat]
    _ = Pass.goal registry key (after registry fallback earlier s).objects := retried.reaches
    _ = Pass.goal registry key s.objects := partway.goal_eq
    _ = ((undisturbed key reports).store registry fallback s).objects := direct.reaches.symm

/-- A pass broken off at a transfer, one broken off at the status, and one that goes through. -/
theorem objects_after_two_broken_passes :
    (∀ t ∈ [Example.broken, Example.unpatched] ++ [Example.through], t.key = ⟨"shop", "web"⟩) ∧
    Example.through.result "registry.local/" .zero
      (after "registry.local/" .zero [Example.broken, Example.unpatched] Example.store) =
        .ok (.after (.ofSeconds 600)) ∧
    (∃ q, Example.through.result "registry.local/" .zero Example.store = .ok q) ∧
    (after "registry.local/" .zero ([Example.broken, Example.unpatched] ++ [Example.through])
      Example.store).objects = (Example.through.store "registry.local/" .zero Example.store).objects := by
  have same : ∀ t ∈ [Example.broken, Example.unpatched] ++ [Example.through],
      t.key = ⟨"shop", "web"⟩ := by decide
  have ended : Example.through.result "registry.local/" .zero
      (after "registry.local/" .zero [Example.broken, Example.unpatched] Example.store) =
        .ok (.after (.ofSeconds 600)) := by decide +kernel
  exact ⟨same, ended, objects_of_retries "registry.local/" .zero ⟨"shop", "web"⟩ Example.store
    [Example.broken, Example.unpatched] Example.through same _ ended fun _ => Example.report⟩

end Stowage.Turn
