import Stowage.Domain.DirectionTable
import Stowage.Text.Mark

/-! Labels that are read from right to left. Where a name has one, each of its labels has to keep to one
direction, so that the order of its characters can be seen. -/
namespace Stowage.Domain

inductive Direction where
  | left | right | arabicLetter | arabicNumber | europeanNumber | europeanSeparator
  | commonSeparator | europeanTerminator | neutral | boundary | nonspacing
deriving DecidableEq, Repr

namespace Direction

def directions : Text.Packed := .ofLines directionRows

def ofAscii (c : Char) : Direction :=
  if c.isAlpha then left
  else if c.isDigit then europeanNumber
  else if c = '+' ∨ c = '-' then europeanSeparator
  else if c = ',' ∨ c = '.' ∨ c = '/' ∨ c = ':' then commonSeparator
  else if c = '#' ∨ c = '$' ∨ c = '%' then europeanTerminator
  else neutral

def of (c : Char) : Direction :=
  if c.toNat < 0x80 then ofAscii c
  else
    match directions.value c with
    | 1 => right
    | 2 => arabicLetter
    | 3 => arabicNumber
    | 4 => europeanNumber
    | 5 => europeanSeparator
    | 6 => commonSeparator
    | 7 => europeanTerminator
    | 8 => neutral
    | 9 => boundary
    | 10 => nonspacing
    | 11 => left
    | _ => if Text.isNonspacing c then nonspacing else left

def isWeak : Direction → Bool
  | europeanNumber | europeanSeparator | commonSeparator | europeanTerminator | neutral | boundary
  | nonspacing => true
  | _ => false

def isRight (d : Direction) : Bool := d = right || d = arabicLetter

def turns (d : Direction) : Bool := d.isRight || d = arabicNumber

end Direction

open Direction in
/-- Whether a label has one direction: that of its first character. Marks at the end do not count, and
numbers of two kinds do not mix in a label from right to left. -/
def keepsDirection (label : List Char) : Bool :=
  match label.map Direction.of with
  | [] => true
  | first :: rest =>
    let inner := (rest.reverse.dropWhile (· = nonspacing)).reverse
    if first = left then
      inner.all (fun d => d = left || d.isWeak) &&
        inner.getLast?.all fun d => d = left || d = europeanNumber
    else if first.isRight then
      inner.all (fun d => d.turns || d.isWeak) &&
        (inner.getLast?.all fun d => d.turns || d = europeanNumber) &&
        !(inner.contains europeanNumber && inner.contains arabicNumber)
    else false

end Stowage.Domain
