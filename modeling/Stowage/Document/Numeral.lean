import Stowage.Number.Shortest

/-! The numbers of a document, in three classes: naturals, negative integers, and doubles. -/
namespace Stowage

inductive Numeral where
  | natural (value : Nat)
  /-- The integer `-value - 1`. -/
  | negative (value : Nat)
  | floating (minus : Bool) (units : Nat)
deriving DecidableEq, Repr

namespace Numeral

/-- Numbers agree within their class only; the two zeros of the doubles agree. -/
def agrees : Numeral → Numeral → Bool
  | natural a, natural b => a = b
  | negative a, negative b => a = b
  | floating m a, floating n b => a = b && (m = n || a = 0)
  | _, _ => false

def signed (minus : Bool) (text : String) : String := if minus then "-" ++ text else text

def text : Numeral → String
  | natural n => toString n
  | negative n => "-" ++ toString (n + 1)
  | floating minus units => signed minus (Number.compact units)

/-- Naturals have 64 bits, and so have integers with their sign. -/
def ofInteger (minus : Bool) (n : Nat) : Option Numeral :=
  if minus then
    if n = 0 then some (floating true 0)
    else if n ≤ UInt64.size / 2 then some (negative (n - 1))
    else none
  else if n < UInt64.size then some (natural n)
  else none

/-- A double with its sign, unless it is out of range. -/
def ofDouble (minus : Bool) : Number.Double → Option Numeral
  | .finite units => some (floating minus units)
  | .infinite => none

def ofInt : Int → Numeral
  | .ofNat n => natural n
  | .negSucc n => negative n

theorem agrees_refl (n : Numeral) : n.agrees n = true := by
  cases n <;> simp [agrees]

theorem agrees_comm (a b : Numeral) : a.agrees b = b.agrees a := by
  cases a <;> cases b <;> simp [agrees, eq_comm]
  rename_i m x n y
  by_cases h : x = y
  · subst h; simp
  · simp [h]

end Numeral
end Stowage
