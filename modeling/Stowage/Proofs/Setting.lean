import Stowage.Pass
import Stowage.Proofs.Dialogue
import Stowage.Store.Memory

/-! Passes over a store in memory. A setting fixes what a pass will meet: the store, with the failures
that are set in it, and what each transfer comes to. -/
namespace Stowage

/-- A store, and the outcomes of the transfers to come. -/
structure Setting where
  store : MemoryStore
  outcomes : Nat → Except TransferFault TransferReport

structure Attempt where
  destination : String
  entry : ResourceEntry
  result : Except TransferFault TransferReport

abbrev Event := Σ q : Demand, q.Answer

def Event.attempt? : Event → Option Attempt
  | ⟨.transfer destination entry, result⟩ => some ⟨destination, entry, result⟩
  | _ => none

def attempts (history : List Event) : List Attempt := history.filterMap Event.attempt?

@[simp] theorem attempts_nil : attempts [] = [] := rfl

@[simp] theorem attempts_append (h₁ h₂ : List Event) :
    attempts (h₁ ++ h₂) = attempts h₁ ++ attempts h₂ := List.filterMap_append

theorem attempts_eq_nil {h : List Event} (none : ∀ e ∈ h, e.attempt? = none) : attempts h = [] :=
  List.filterMap_eq_nil_iff.mpr none

namespace Setting

/-- The store answers calls, and each transfer comes to the next outcome. -/
def answer : (q : Demand) → Setting → q.Answer × Setting
  | .call c, w => ((w.store.answer c).1, { w with store := (w.store.answer c).2 })
  | .transfer .., w => (w.outcomes 0, { w with outcomes := fun n => w.outcomes (n + 1) })
  | .record _, w => ((), w)

variable (w : Setting)

@[simp] theorem run_call (c : Call) : (Pass.call c).run answer w =
    ((w.store.answer c).1, { w with store := (w.store.answer c).2 }) := rfl

theorem history_call (c : Call) : (Pass.call c).history answer w =
    [⟨.call c, (w.store.answer c).1⟩] := rfl

@[simp] theorem attempts_call (c : Call) : attempts ((Pass.call c).history answer w) = [] := rfl

@[simp] theorem run_transfer (destination : String) (entry : ResourceEntry) :
    (Pass.transfer destination entry).run answer w =
      (w.outcomes 0, { w with outcomes := fun n => w.outcomes (n + 1) }) := rfl

theorem history_transfer (destination : String) (entry : ResourceEntry) :
    (Pass.transfer destination entry).history answer w =
      [⟨.transfer destination entry, w.outcomes 0⟩] := rfl

@[simp] theorem attempts_transfer (destination : String) (entry : ResourceEntry) :
    attempts ((Pass.transfer destination entry).history answer w) =
      [⟨destination, entry, w.outcomes 0⟩] := rfl

@[simp] theorem run_record (m : Meter) : (Pass.record m).run answer w = ((), w) := rfl

theorem history_record (m : Meter) :
    (Pass.record m).history answer w = [⟨.record m, ()⟩] := rfl

@[simp] theorem attempts_record (m : Meter) : attempts ((Pass.record m).history answer w) = [] := rfl

end Setting
end Stowage
