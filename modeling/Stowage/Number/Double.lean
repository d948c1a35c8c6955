import Stowage.Number.Rounding

/-! Doubles without a sign. Each finite one is a multiple of the least positive one, 2⁻¹⁰⁷⁴, and is
held as that multiple, so that its arithmetic is exact arithmetic and one rounding. -/
namespace Stowage.Number

/-- How many units of 2⁻¹⁰⁷⁴ make one. -/
def unitsPerOne : Nat := 1 <<< 1074

inductive Double where
  | finite (units : Nat)
  | infinite
deriving DecidableEq, Repr

namespace Double

/-- The double nearest to `num / den` units; from 2¹⁰²⁴ on there is none. -/
def ofUnits (num den : Nat) : Double :=
  let units := roundQuotient num den
  if units < unitsPerOne <<< 1024 then finite units else infinite

def ofDecimal (digits places : Nat) : Double := ofUnits (digits * unitsPerOne) (Nat.pow 10 places)

def ofNat (n : Nat) : Double := ofDecimal n 0

def zero : Double := finite 0

def add : Double → Double → Double
  | finite a, finite b => ofUnits (a + b) 1
  | _, _ => infinite

/-- Product of two doubles that are not zero and infinite at once. -/
def mul : Double → Double → Double
  | finite a, finite b => ofUnits (a * b) unitsPerOne
  | _, _ => infinite

/-- Quotient of two doubles of which the second is not zero. -/
def div : Double → Double → Double
  | finite a, finite b => ofUnits (a * unitsPerOne) b
  | finite _, infinite => zero
  | infinite, _ => infinite

instance : Add Double := ⟨add⟩
instance : Mul Double := ⟨mul⟩
instance : Div Double := ⟨div⟩

end Double
end Stowage.Number
