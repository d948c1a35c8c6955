import Stowage.Domain.JoiningTable
import Stowage.Text.Composition
import Stowage.Text.Mark

/-! Joiners, which cannot be seen by themselves and may stand only where they change how letters beside
them look. -/
namespace Stowage.Domain

inductive Joining where
  | both | right | left | causing | transparent | none
deriving DecidableEq, Repr

namespace Joining

def joinings : Text.Packed := .ofLines joiningRows

def of (c : Char) : Joining :=
  match joinings.value c with
  | 1 => both
  | 2 => right
  | 3 => left
  | 4 => causing
  | 5 => transparent
  | _ => if Text.isNonspacing c then transparent else none

def meets (wanted : List Joining) (cs : List Char) : Bool :=
  match (cs.map Joining.of).dropWhile (· = transparent) with
  | [] => false
  | j :: _ => wanted.contains j

end Joining

def nonJoiner : Char := '\u200c'
def joiner : Char := '\u200d'

/-- Whether each joiner has its place; `before` are the characters before, last first. A joiner of either
kind follows a mark that suppresses a vowel, and a non-joiner may part two letters that would join. -/
def joinersFit (before : List Char) : List Char → Bool
  | [] => true
  | c :: cs =>
    (if c = nonJoiner ∨ c = joiner then
      match before with
      | [] => false
      | previous :: _ =>
        Text.isVirama previous ||
          (c = nonJoiner && Joining.meets [.both, .left] before && Joining.meets [.both, .right] cs)
    else true) && joinersFit (c :: before) cs

end Stowage.Domain
