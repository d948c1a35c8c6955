import Stowage.Proofs.Pass.Events
import Stowage.Proofs.Thread

/-! The generation that a status observes while the spec of the resource is edited. An edit may land after a
pass loaded the resource and before it patches the status, and the patch is made from what was loaded. -/
namespace Stowage

def Resource.observed? (r : Resource) : Option Int64 := (r.status.getD {}).observedGeneration

/-- Demands that neither load the resource nor patch its status. -/
def Demand.Quiet : Demand → Prop
  | .call (.getResource _) | .call (.patchStatus ..) => False
  | _ => True

def Event.loaded? : Event → Option Resource
  | ⟨.call (.getResource _), .ok found⟩ => found
  | _ => none

def Event.described? : Event → Option ComponentDescriptor
  | ⟨.call (.getDescriptor _), .ok found⟩ => found
  | _ => none

def loaded (h : List Event) : List Resource := h.filterMap Event.loaded?

def described (h : List Event) : List ComponentDescriptor := h.filterMap Event.described?

def told (h : List Event) : Bool := h.any fun e => e.succeeded && e.1.patchesStatus

theorem loaded_append (h h' : List Event) : loaded (h ++ h') = loaded h ++ loaded h' :=
  List.filterMap_append

theorem told_append (h h' : List Event) : told (h ++ h') = (told h || told h') := List.any_append

theorem loaded_append_quiet {h asked : List Event} (quiet : ∀ e ∈ asked, e.1.Quiet) :
    loaded (h ++ asked) = loaded h := by
  have none : loaded asked = [] := by
    rw [loaded, List.filterMap_eq_nil_iff]
    rintro ⟨c | _ | _, a⟩ member
    · cases c <;> first | rfl | exact (quiet _ member).elim
    all_goals rfl
  rw [loaded_append, none, List.append_nil]

theorem told_append_quiet {h asked : List Event} (quiet : ∀ e ∈ asked, e.1.Quiet) :
    told (h ++ asked) = told h := by
  have still : told asked = false := by
    rw [told, List.any_eq_false]
    rintro ⟨c | _ | _, a⟩ member
    · cases c <;> first | exact (quiet _ member).elim | simp [Demand.patchesStatus]
    all_goals simp [Demand.patchesStatus]
  rw [told_append, still, Bool.or_false]

namespace Pass

variable (registry : String) (fallback : Span) (key : ObjectKey)

/-- What a pass may ask after a history: it loads its resource at first, and patches the status once, from
the one that it loaded and to one that observes the generation loaded. -/
def May (h : List Event) : Demand → Prop
  | .call (.getResource k) => k = key ∧ loaded h = [] ∧ told h = false
  | .call (.patchStatus k patch) =>
    k = key ∧ told h = false ∧ ∃ r after, loaded h = [r] ∧
      (r.status.getD {}).patch? after = some patch ∧
      after.observedGeneration = r.metadata.generation.or r.observed?
  | _ => True

theorem may_of_quiet (h : List Event) {q : Demand} (quiet : q.Quiet) : May key h q := by
  cases q with
  | transfer | record => trivial
  | call c => cases c <;> trivial

/-- The status tells the generation of what was loaded, or told it already. -/
def Tells (h : List Event) (r : Resource) : Prop :=
  told h = true ∨ r.observed? = r.metadata.generation.or r.observed?

/-- A pass that went through with a descriptor has told the generation that it loaded. -/
def Fits (h : List Event) (result : Except Failure Requeue) : Prop :=
  ∀ q r, result = .ok q → r ∈ loaded h → described h ≠ [] → Tells h r

theorem fits_error (h : List Event) (f : Failure) : Fits h (.error f) :=
  fun _ _ ended => nomatch ended

theorem Fits.record {h : List Event} {result : Except Failure Requeue} (fits : Fits h result)
    (m : Meter) : Fits (h ++ [⟨.record m, ()⟩]) result := by
  have quiet : ∀ e ∈ ([⟨.record m, ()⟩] : List Event), e.1.Quiet := by simp [Demand.Quiet]
  have same : described (h ++ [⟨.record m, ()⟩]) = described h :=
    List.filterMap_append.trans (List.append_nil _)
  intro q r ended member found
  rw [loaded_append_quiet quiet] at member
  rw [same] at found
  rw [Tells, told_append_quiet quiet]
  exact fits q r ended member found

theorem Handles.quiet {r : Resource} {d : Destination} {q : Demand} (h : Handles r d q) : q.Quiet := by
  rcases h with _ | ⟨_ | _ | _ | _⟩ <;> trivial

/-- The entries do not change what the status observes. -/
theorem applyEntries_returns (r : Resource) (d : Destination) (status : ResourceStatus)
    (entries : List ResourceEntry) :
    (applyEntries r d status entries).Returns fun result =>
      ∀ status', result = .ok status' → status'.observedGeneration = status.observedGeneration := by
  induction entries generalizing status with
  | nil =>
    rintro _ ⟨⟩
    rfl
  | cons entry rest ih =>
    refine Dialogue.Returns.bind _ ?_
    rintro (e | report)
    · exact nofun
    · refine Dialogue.Returns.bind _ ?_
      rintro (e | ⟨⟩)
      · exact nofun
      · exact ih { status with lastAppliedVersion := some entry.version }

variable {key} in
theorem patchStatus_upholds {r : Resource} {after : ResourceStatus} {h : List Event}
    (loads : loaded h = [r]) (untold : told h = false)
    (observes : after.observedGeneration = r.metadata.generation.or r.observed?) :
    (patchStatus key (r.status.getD {}) after).Upholds (May key)
      (fun h result => loaded h = [r] ∧ (result = .ok () → Tells h r)) h := by
  rw [patchStatus]
  cases changed : (r.status.getD {}).patch? after with
  | none =>
    have same := ResourceStatus.patch?_eq_none_iff.mp changed
    refine ⟨loads, fun _ => .inr ?_⟩
    rw [← observes, ← same]
    rfl
  | some patch =>
    refine ⟨⟨rfl, untold, r, after, loads, changed, observes⟩, ?_⟩
    have kept (a : (Call.patchStatus key patch).Answer) :
        loaded (h ++ [⟨.call (.patchStatus key patch), a⟩]) = [r] := by
      rw [loaded_append, loads]
      rfl
    rintro (e | _)
    · exact ⟨kept _, fun went => by cases went⟩
    · refine ⟨kept _, fun _ => .inl ?_⟩
      rw [told_append]
      exact Bool.or_true _

variable {key} in
theorem settle_upholds {r : Resource} (c : ComponentDescriptor) {h : List Event}
    (loads : loaded h = [r]) (untold : told h = false) :
    (settle registry key r c).Upholds (May key)
      (fun h result => loaded h = [r] ∧ (result = .ok () → Tells h r)) h := by
  rw [settle]
  refine Dialogue.Upholds.bind (((applyEntries_asks ..).mono fun _ => Handles.quiet).upholds
    (applyEntries_returns ..) fun _ _ => may_of_quiet key _) ?_
  rintro _ (e | status) ⟨⟨asked, rfl, quiet⟩, observes⟩ <;>
    rw [← loaded_append_quiet quiet] at loads
  · exact ⟨loads, fun went => by cases went⟩
  · rw [← told_append_quiet quiet] at untold
    refine patchStatus_upholds loads untold ?_
    rw [observed_observedGeneration, observes status rfl]
    rfl

theorem run_upholds : (run registry fallback key).Upholds (May key) Fits [] := by
  rw [run]
  refine ⟨trivial, fun _ => ?_⟩
  have converges : (converge registry fallback key).Upholds (May key) Fits
      ([] ++ [⟨.record .passes, ()⟩]) := by
    rw [converge]
    refine ⟨⟨rfl, rfl, rfl⟩, ?_⟩
    rintro (e | _ | r)
    · exact fits_error _ _
    · intro q r _ member
      cases member
    · refine ⟨trivial, ?_⟩
      rintro (e | _ | c)
      · exact fits_error _ _
      · refine ⟨trivial, fun _ => ?_⟩
        exact fun _ _ _ _ found => absurd rfl found
      · refine Dialogue.Upholds.bind (d := settle registry key r c) (settle_upholds registry c rfl rfl) ?_
        rintro h (e | ⟨⟩) ⟨loads, tells⟩
        · exact fits_error _ _
        · intro q r' _ member _
          rw [loads, List.mem_singleton] at member
          rw [member]
          exact tells rfl
  refine Dialogue.Upholds.bind (d := converge registry fallback key) converges ?_
  rintro h (f | q) fits
  · exact ⟨trivial, fun _ => ⟨trivial, fun _ => (fits.record _).record _⟩⟩
  · exact ⟨trivial, fun _ => fits.record _⟩

end Pass
end Stowage
