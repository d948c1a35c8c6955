import Stowage.Proofs.Pass.Turn

/-! Where the references of snapshots and the versions of statuses come from: each was there before, or was
transferred to the place that it tells of. -/
namespace Stowage

/-- The transfer of an entry came to a report. -/
def Delivered (made : List Attempt) (destination : String) (entry : ResourceEntry) : Prop :=
  ∃ report, ⟨destination, entry, .ok report⟩ ∈ made

theorem Delivered.mono {made more : List Attempt} {destination : String} {entry : ResourceEntry}
    (h : Delivered made destination entry) (all : made ⊆ more) : Delivered more destination entry :=
  h.imp fun _ member => all member

def Resource.lastApplied (r : Resource) : Option String := (r.status.getD {}).lastAppliedVersion

namespace Pass

theorem delivered_of_outcome (d : Destination)
    {outcomes : Nat → Except TransferFault TransferReport} {entries : List ResourceEntry} {i : Nat}
    (inside : i < entries.length) (ok : ∃ report, outcomes i = .ok report) :
    Delivered (deliveries d outcomes entries) d.reference entries[i] := by
  obtain ⟨report, ok⟩ := ok
  exact ⟨report, List.mem_mapIdx.mpr ⟨i, inside, by rw [ok]⟩⟩

section Progress

variable {r : Resource} {d : Destination} {failures : List (Operation × String)}
  {outcomes : Nat → Except TransferFault TransferReport} {table table' : List (ObjectKey × Snapshot)}
  {status : ResourceStatus} {entries : List ResourceEntry}
  {result : Except PassError ResourceStatus} {made : List Attempt}

/-- A snapshot is written only after a transfer to its place. -/
theorem Progress.snapshots_origin
    (h : Progress r d failures outcomes table status entries result table' made) :
    table' = table ∨ table' = recorded r d table ∧ ∃ entry, Delivered made d.reference entry := by
  -- Of the entries done there is none, or the first of them was transferred before anything was written.
  have written (done rest : List ResourceEntry)
      (went : ∀ i < done.length, ∃ report, outcomes i = .ok report) :
      recordedFor r d done table = table ∨ recordedFor r d done table = recorded r d table ∧
        ∃ entry, Delivered (deliveries d outcomes (done ++ rest)) d.reference entry := by
    cases done with
    | nil => exact .inl rfl
    | cons entry done =>
      exact .inr ⟨rfl, entry, delivered_of_outcome d (by simp) (went 0 (by simp))⟩
  cases h with
  | completed went => simpa using written entries [] went
  | untransferred done entry rest fault split went failed => exact written done _ went
  | unrecorded done entry rest c e split went injected =>
    exact written done _ fun i inside => went i (by rw [List.length_append]; omega)

/-- The version of the status is that of an entry that was transferred. -/
theorem Progress.version_origin {status' : ResourceStatus}
    (h : Progress r d failures outcomes table status entries (.ok status') table' made) :
    status'.lastAppliedVersion = status.lastAppliedVersion ∨
      ∃ entry, Delivered made d.reference entry ∧ status'.lastAppliedVersion = some entry.version := by
  cases h with
  | completed went =>
    rw [applied_lastAppliedVersion]
    cases last : entries.getLast? with
    | none => exact .inl rfl
    | some entry =>
      obtain ⟨i, inside, rfl⟩ := List.mem_iff_getElem.mp (List.mem_of_getLast? last)
      exact .inr ⟨_, delivered_of_outcome d inside (went i inside), rfl⟩

end Progress

section Course

variable {registry : String} {fallback : Span} {key : ObjectKey} {w : Setting}
  {result : Except Failure Requeue} {o : Objects} {made : List Attempt}

theorem Course.snapshots_origin (h : Course registry fallback key w result o made) :
    o.snapshots = w.store.snapshots ∨
      ∃ r, o.snapshots = recorded r (r.destination registry) w.store.snapshots ∧
        ∃ entry, Delivered made (r.destination registry).reference entry := by
  cases h with
  | unloaded | gone | undescribed | pending => exact .inl rfl
  | broken r c _ _ _ _ _ progress | unpatched r c _ _ _ _ _ _ _ progress
  | settled r c _ _ _ _ _ progress => exact progress.snapshots_origin.imp_right fun h => ⟨r, h⟩

/-- What a pass leaves under a key is as before, or has the reference of a transfer. -/
theorem Course.snapshot_origin (h : Course registry fallback key w result o made) {k : ObjectKey}
    {p : Snapshot} (found : Table.get? k o.snapshots = some p) :
    Table.get? k w.store.snapshots = some p ∨
      ∃ entry, Delivered made (trimSlashes registry ++ "/snapshots/" ++ p.spec.reference) entry := by
  rcases h.snapshots_origin with same | ⟨r, written, delivered⟩
  · rw [same] at found
    exact .inl found
  · rw [written] at found
    by_cases own : k = r.snapshotKey
    · obtain ⟨p', found', spec⟩ := get?_recorded r (r.destination registry) w.store.snapshots
      rw [own, found'] at found
      cases found
      rw [spec]
      exact .inr delivered
    · rw [get?_recorded_other r _ own] at found
      exact .inl found

theorem Course.resource_origin (h : Course registry fallback key w result o made) {k : ObjectKey}
    {r : Resource} (found : Table.get? k o.resources = some r) :
    ∃ r₀, Table.get? k w.store.resources = some r₀ ∧ r = { r₀ with status := r.status } ∧
      (r.lastApplied = r₀.lastApplied ∨ ∃ entry,
        Delivered made (r.destination registry).reference entry ∧ r.lastApplied = some entry.version) := by
  cases h with
  | unloaded | gone | undescribed | pending | broken | unpatched => exact ⟨r, found, rfl, .inl rfl⟩
  | settled r₀ c status _ _ found₀ _ progress =>
    by_cases own : k = key
    · subst own
      obtain ⟨after, stored, settled⟩ := get?_patched k found₀ (observed r₀ status)
      rw [stored] at found
      cases found
      have origin := progress.version_origin
      rw [← observed_lastAppliedVersion r₀, ← settled] at origin
      exact ⟨r₀, found₀, rfl, origin⟩
    · rw [get?_patched_other key own] at found
      exact ⟨r, found, rfl, .inl rfl⟩

end Course
end Pass

namespace Turn

/-- Over any passes, each reference and each version is one from before or was transferred: a reference to
its place in the registry, a version to the destination of the resource. -/
theorem origins_of_passes (registry : String) (fallback : Span) (s : MemoryStore) (turns : List Turn) :
    (∀ k p, Table.get? k (after registry fallback turns s).snapshots = some p →
      (∃ p₀, Table.get? k s.snapshots = some p₀ ∧ p.spec = p₀.spec) ∨
      ∃ entry, Delivered (made registry fallback turns s)
        (trimSlashes registry ++ "/snapshots/" ++ p.spec.reference) entry) ∧
    (∀ k r, Table.get? k (after registry fallback turns s).resources = some r →
      ∃ r₀, Table.get? k s.resources = some r₀ ∧ r = { r₀ with status := r.status } ∧
      (r.lastApplied = r₀.lastApplied ∨ ∃ entry,
        Delivered (made registry fallback turns s) (r.destination registry).reference entry ∧
        r.lastApplied = some entry.version)) := by
  induction turns generalizing s with
  | nil => exact ⟨fun k p found => .inl ⟨p, found, rfl⟩, fun k r found => ⟨r, found, rfl, .inl rfl⟩⟩
  | cons t turns ih =>
    obtain ⟨snapshots, resources⟩ := ih (t.store registry fallback s)
    have course := t.course registry fallback s
    have here {destination entry} (h : Delivered (t.attempts registry fallback s) destination entry) :
        Delivered (made registry fallback (t :: turns) s) destination entry :=
      h.mono (List.subset_append_left ..)
    have later {destination entry}
        (h : Delivered (made registry fallback turns (t.store registry fallback s)) destination entry) :
        Delivered (made registry fallback (t :: turns) s) destination entry :=
      h.mono (List.subset_append_right ..)
    constructor
    · intro k p found
      rcases snapshots k p found with ⟨p₁, found₁, spec⟩ | ⟨entry, delivered⟩
      · rcases course.snapshot_origin found₁ with before | ⟨entry, delivered⟩
        · exact .inl ⟨p₁, before, spec⟩
        · rw [← spec] at delivered
          exact .inr ⟨entry, here delivered⟩
      · exact .inr ⟨entry, later delivered⟩
    · intro k r found
      obtain ⟨r₁, found₁, same₁, origin₁⟩ := resources k r found
      obtain ⟨r₀, found₀, same₀, origin₀⟩ := course.resource_origin found₁
      have same : r = { r₀ with status := r.status } := by rw [same₁, same₀]
      refine ⟨r₀, found₀, same, ?_⟩
      rcases origin₁ with version | ⟨entry, delivered, version⟩
      · rcases origin₀ with version₀ | ⟨entry, delivered, version₀⟩
        · exact .inl (version.trans version₀)
        · rw [same₁]
          exact .inr ⟨entry, here delivered, version.trans version₀⟩
      · exact .inr ⟨entry, later delivered, version⟩

/-- After a pass that broke off and one that went through, the snapshot is new and the version another. -/
theorem origins_after_a_broken_pass :
    (∃ p, Table.get? ⟨"shop", "web"⟩
        (after "registry.local/" .zero [Example.broken, Example.through] Example.store).snapshots = some p ∧
      p.spec.reference = "web:stable" ∧
      ((∃ p₀, Table.get? ⟨"shop", "web"⟩ Example.store.snapshots = some p₀ ∧ p.spec = p₀.spec) ∨
        ∃ entry, Delivered
          (made "registry.local/" .zero [Example.broken, Example.through] Example.store)
          (trimSlashes "registry.local/" ++ "/snapshots/" ++ p.spec.reference) entry)) ∧
    ∃ r, Table.get? ⟨"shop", "web"⟩
        (after "registry.local/" .zero [Example.broken, Example.through] Example.store).resources = some r ∧
      r.lastApplied = some "1.1" ∧
      ∃ r₀, Table.get? ⟨"shop", "web"⟩ Example.store.resources = some r₀ ∧
        r = { r₀ with status := r.status } ∧
        (r.lastApplied = r₀.lastApplied ∨ ∃ entry,
          Delivered (made "registry.local/" .zero [Example.broken, Example.through] Example.store)
            (r.destination "registry.local/").reference entry ∧
          r.lastApplied = some entry.version) := by
  have origins := origins_of_passes "registry.local/" .zero Example.store
    [Example.broken, Example.through]
  have reference : (Table.get? ⟨"shop", "web"⟩ (after "registry.local/" .zero
      [Example.broken, Example.through] Example.store).snapshots).map (·.spec.reference) =
        some "web:stable" := by decide +kernel
  have version : (Table.get? ⟨"shop", "web"⟩ (after "registry.local/" .zero
      [Example.broken, Example.through] Example.store).resources).map Resource.lastApplied =
        some (some "1.1") := by decide +kernel
  obtain ⟨p, found, told⟩ := Option.map_eq_some_iff.mp reference
  obtain ⟨r, held, last⟩ := Option.map_eq_some_iff.mp version
  exact ⟨⟨p, found, told, origins.1 _ p found⟩, r, held, last, origins.2 _ r held⟩

end Turn
end Stowage
