import Stowage.Proofs.Pass.Failed
import Stowage.Span.Reader

/-! How soon there is a next pass. After a failure there always is one, and no pass asks for the next at once
but one: a pass that fails, where neither the resource nor the setting has an interval. -/
namespace Stowage

namespace Span

theorem standard_ne_zero : standard ≠ zero := by decide

/-- Only a setting that says so makes the interval zero. -/
theorem ofSetting_eq_zero_iff {setting : Option String} :
    ofSetting setting = zero ↔ ∃ text, setting = some text ∧ read text = .ok zero := by
  unfold ofSetting
  cases setting with
  | none => simp [standard_ne_zero]
  | some text =>
    cases told : read text with
    | error reason => simp [told, standard_ne_zero]
    | ok span => simp [told]

end Span

namespace Requeue

variable (q : Requeue)

/-- Without a failure, no pass follows at once. -/
theorem action_ne_zero : q.action ≠ .requeue .zero := by
  cases q with
  | never => exact nofun
  | after delay =>
    by_cases none : delay = .zero
    · simp [action, none]
    · simp [action, none]

/-- A retry after an interval is at once only where both the interval and the fallback are zero. -/
theorem retryAction_every (interval fallback : Span) :
    (every interval).retryAction fallback = .requeue (if interval = .zero then fallback else interval) := by
  unfold every
  split
  next => rfl
  next long => simp [retryAction, long]

end Requeue

namespace Turn

variable (t : Turn) (registry : String) (setting : Option String) (s : MemoryStore)

def action : Action :=
  match t.result registry (.ofSetting setting) s with
  | .ok q => q.action
  | .error f => f.requeue.retryAction (.ofSetting setting)

variable {t registry setting s}

theorem action_of_ok {q : Requeue} (went : t.result registry (.ofSetting setting) s = .ok q) :
    t.action registry setting s = q.action := by
  rw [action, went]

theorem action_of_error {f : Failure} (failed : t.result registry (.ofSetting setting) s = .error f) :
    t.action registry setting s = f.requeue.retryAction (.ofSetting setting) := by
  rw [action, failed]

/-- A failed pass is followed by another, after the interval of the resource if it was loaded and has one. -/
theorem delay_of_error {f : Failure} (failed : t.result registry (.ofSetting setting) s = .error f) :
    ((∃ e, f = ⟨.loadResource t.key e, .never⟩) ∧
      t.action registry setting s = .requeue (.ofSetting setting)) ∨
    ∃ r, (∀ key e, f.error ≠ .loadResource key e) ∧ Table.get? t.key s.resources = some r ∧
      t.action registry setting s =
        .requeue (if r.interval (.ofSetting setting) = .zero then .ofSetting setting
          else r.interval (.ofSetting setting)) := by
  have course := t.course registry (.ofSetting setting) s
  rw [failed] at course
  rw [action_of_error failed]
  obtain ⟨e, rfl⟩ | ⟨r, found, loaded, requeue⟩ := course.requeue_of_error
  · exact .inl ⟨⟨e, rfl⟩, rfl⟩
  · refine .inr ⟨r, loaded, found, ?_⟩
    rw [requeue]
    exact Requeue.retryAction_every ..

variable (t registry setting s)

/-- A pass that fails is always followed by another. It follows at once exactly where the setting says that
the interval is zero, and the resource was not loaded or says so too. A pass that goes through is never
followed by another at once. -/
theorem requeues_at_once_iff :
    (∀ f, t.result registry (.ofSetting setting) s = .error f →
      ∃ delay, t.action registry setting s = .requeue delay ∧
        (delay = .zero ↔ (∃ text, setting = some text ∧ Span.read text = .ok .zero) ∧
          ((∃ e, f.error = .loadResource t.key e) ∨
            ∃ r, Table.get? t.key s.resources = some r ∧ r.interval (.ofSetting setting) = .zero))) ∧
    (∀ q, t.result registry (.ofSetting setting) s = .ok q →
      t.action registry setting s ≠ .requeue .zero) := by
  refine ⟨fun f failed => ?_, fun q went => ?_⟩
  · rw [← Span.ofSetting_eq_zero_iff]
    obtain ⟨⟨e, rfl⟩, action⟩ | ⟨r, loaded, found, action⟩ := delay_of_error failed
    · exact ⟨_, action, by simp⟩
    · refine ⟨_, action, ?_⟩
      have told : ¬ ∃ e, f.error = .loadResource t.key e := not_exists.mpr fun e => loaded _ e
      simp only [told, found, Option.some.injEq, exists_eq_left', false_or]
      split
      next none => simp [none]
      next some => simp [some]
  · rw [action_of_ok went]
    exact q.action_ne_zero

/-- A pass that fails without any setting is followed by another, but not at once. -/
theorem requeues_later_when_broken :
    ∃ f delay, Example.broken.result "registry.local" (.ofSetting none) Example.store = .error f ∧
      Example.broken.action "registry.local" none Example.store = .requeue delay ∧ delay ≠ .zero := by
  have failed : (Example.broken.result "registry.local" (.ofSetting none) Example.store).toOption = none := by
    decide +kernel
  obtain ⟨retried, -⟩ := requeues_at_once_iff Example.broken "registry.local" none Example.store
  cases ended : Example.broken.result "registry.local" (.ofSetting none) Example.store with
  | ok q =>
    rw [ended] at failed
    cases failed
  | error f =>
    obtain ⟨delay, action, zero⟩ := retried f ended
    refine ⟨f, delay, rfl, action, fun none => ?_⟩
    obtain ⟨⟨text, set, -⟩, -⟩ := zero.mp none
    cases set

end Turn

namespace Example

def unloaded : Turn := ⟨⟨"shop", "web"⟩, [(.getResource, "timeout")], fun _ => .ok report⟩

end Example

/-- With an interval of zero, a pass that could not load its resource is followed by another at once. -/
theorem Turn.requeues_at_once_when_unloaded :
    (∃ f, Example.unloaded.result "registry.local" (.ofSetting (some "0")) Example.store = .error f) ∧
      Example.unloaded.action "registry.local" (some "0") Example.store = .requeue .zero := by
  have setting : Span.ofSetting (some "0") = .zero := by
    rw [Span.ofSetting_eq_zero_iff]
    exact ⟨_, rfl, by decide +kernel⟩
  have failed : Example.unloaded.result "registry.local" (.ofSetting (some "0")) Example.store =
      .error ⟨.loadResource ⟨"shop", "web"⟩ (.backend "Resource" ⟨"shop", "web"⟩ "timeout"), .never⟩ := rfl
  refine ⟨⟨_, failed⟩, ?_⟩
  rw [Turn.action_of_error failed, setting]
  rfl

end Stowage
