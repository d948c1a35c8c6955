import Stowage.Text.CompositionTable
import Stowage.Text.Packed

/-! Composed characters: a letter and its marks, taken apart, put into one order and put together again
as far as there are characters for it. Texts that look the same are then the same. -/
namespace Stowage.Text

def composites : Packed := .ofLines compositeRows

def combiningClasses : Packed := .ofLines combiningRows

/-- Marks of a class other than zero may change places with marks of another class. -/
def combiningClass (c : Char) : Nat := combiningClasses.value c

/-- The class of the marks that suppress the vowel of a letter. -/
def isVirama (c : Char) : Bool := combiningClass c = 9

namespace Hangul

/-! Syllables are composed by a rule: a leading consonant, a vowel, and at times a trailing consonant. -/

def base : Nat := 0xac00
def leading : Nat := 0x1100
def vowel : Nat := 0x1161
def trailing : Nat := 0x11a7
def vowels : Nat := 21
def trailings : Nat := 28
def syllables : Nat := 11172

def parts? (c : Char) : Option (List Char) :=
  let n := c.toNat
  if base ≤ n ∧ n < base + syllables then
    let index := n - base
    let open_ := [
      Char.ofNat (leading + index / (vowels * trailings)),
      Char.ofNat (vowel + index / trailings % vowels)]
    some (if index % trailings = 0 then open_ else open_ ++ [Char.ofNat (trailing + index % trailings)])
  else none

def compose? (a b : Char) : Option Char :=
  let l := a.toNat
  let m := b.toNat
  if leading ≤ l ∧ l < leading + 19 ∧ vowel ≤ m ∧ m < vowel + vowels then
    some (Char.ofNat (base + ((l - leading) * vowels + (m - vowel)) * trailings))
  else if base ≤ l ∧ l < base + syllables ∧ (l - base) % trailings = 0 ∧ trailing < m ∧
      m < trailing + trailings then
    some (Char.ofNat (l + (m - trailing)))
  else none

end Hangul

/-- A character taken apart; the first part of a composed one may be composed itself, three deep at
most. -/
def decompose (c : Char) : Nat → List Char
  | 0 => [c]
  | depth + 1 =>
    match Hangul.parts? c with
    | some parts => parts
    | none =>
      match composites.find? c with
      | some ⟨_, _, _, [a, b]⟩ => decompose (Char.ofNat a) depth ++ [Char.ofNat b]
      | _ => [c]

/-- Puts a mark behind the marks before it that are of its class or a lower one. -/
def insertMark (c : Char) : List Char → List Char
  | [] => [c]
  | d :: ds =>
    if combiningClass d ≠ 0 ∧ combiningClass c < combiningClass d then c :: d :: ds
    else d :: insertMark c ds

/-- Sorts each row of marks by their classes; `marks` is the row that is being collected. -/
def orderMarks (marks : List Char) : List Char → List Char
  | [] => marks
  | c :: cs =>
    if combiningClass c = 0 then marks ++ c :: orderMarks [] cs else orderMarks (insertMark c marks) cs

def compose? (a b : Char) : Option Char :=
  match Hangul.compose? a b with
  | some c => some c
  | none =>
    (composites.rows.find? fun r => r.values = [a.toNat, b.toNat]).map fun r => Char.ofNat r.first

/-- Puts characters together with the last starter. Marks since then that stay by themselves are kept,
last first; a mark that finds one of its class or a higher one there stays as well. -/
def composeWith (starter : Char) (kept : List Char) : List Char → List Char
  | [] => starter :: kept.reverse
  | c :: cs =>
    let here := combiningClass c
    let blocked :=
      match kept with
      | [] => false
      | d :: _ => here ≤ combiningClass d
    match if blocked then none else compose? starter c with
    | some composed => composeWith composed kept cs
    | none =>
      if here = 0 then starter :: kept.reverse ++ composeWith c [] cs
      else composeWith starter (c :: kept) cs

def composeAll : List Char → List Char
  | [] => []
  | c :: cs => if combiningClass c = 0 then composeWith c [] cs else c :: composeAll cs

/-- The composed form of a text. -/
def composed (cs : List Char) : List Char :=
  composeAll (orderMarks [] (cs.flatMap (decompose · 3)))

end Stowage.Text
