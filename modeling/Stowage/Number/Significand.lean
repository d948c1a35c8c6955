import Stowage.Number.Decimal
import Stowage.Number.Double

/-! Numerals kept in 64 bits: digits that do not fit only move the point. Their double is made by one
rounding of the digits and one product or quotient with a rounded power of ten, so that it may lie beside
the nearest one. -/
namespace Stowage.Number

/-- The number `digits · 10 ^ exponent`, with the digits in 64 bits. -/
structure Significand where
  digits : Nat
  exponent : Int
deriving DecidableEq, Repr

namespace Significand

/-- Adds digits as long as they fit, and gives the others. -/
def fill (value : Nat) : List Char → Nat × List Char
  | [] => (value, [])
  | c :: cs =>
    let next := 10 * value + digitValue c
    if next < UInt64.size then fill next cs else (value, c :: cs)

def ofWhole (ds : List Char) : Significand :=
  let (value, left) := fill 0 ds
  ⟨value, left.length⟩

def addFraction (ds : List Char) (s : Significand) : Significand :=
  let (value, left) := fill s.digits ds
  ⟨value, s.exponent - (ds.length - left.length : Nat)⟩

def scale (power : Int) (s : Significand) : Significand := { s with exponent := s.exponent + power }

/-- The greatest power of ten that is a double. -/
def greatestPower : Nat := 308

def powerOfTen (n : Nat) : Double := .ofNat (Nat.pow 10 n)

/-- The double times a power of ten; from an exponent that is too small, as much as possible at once. -/
def scaled (value : Double) (exponent : Int) : Double :=
  if exponent.natAbs ≤ greatestPower then
    if 0 ≤ exponent then value * powerOfTen exponent.natAbs else value / powerOfTen exponent.natAbs
  else if value = .zero then .zero
  else if 0 ≤ exponent then .infinite
  else scaled (value / powerOfTen greatestPower) (exponent + greatestPower)
termination_by (-exponent).toNat
decreasing_by simp only [greatestPower] at *; omega

def toDouble (s : Significand) : Double := scaled (.ofNat s.digits) s.exponent

example : ofWhole "184467440737095516150".toList = ⟨18446744073709551615, 1⟩ := by decide
example : (ofWhole ['1']).addFraction "250".toList = ⟨1250, -3⟩ := by decide

end Significand
end Stowage.Number
