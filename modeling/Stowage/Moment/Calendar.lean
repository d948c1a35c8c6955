/-! Days and dates of the Gregorian calendar, carried on in both directions. A year is counted from its
first of March, so that the leap day is its last. -/
namespace Stowage

structure Date where
  year : Int
  month : Nat
  day : Nat
deriving DecidableEq, Repr

namespace Date

/-- Days from 0000-03-01 to 1970-01-01. -/
def epoch : Int := 719468

/-- Days before the first of a month, from March on. -/
def daysBefore (monthFromMarch : Nat) : Nat := (153 * monthFromMarch + 2) / 5

/-- Days from 1970-01-01 on. -/
def toDays (d : Date) : Int :=
  let year := if d.month ≤ 2 then d.year - 1 else d.year
  let month := if d.month ≤ 2 then d.month + 9 else d.month - 3
  365 * year + year / 4 - year / 100 + year / 400 + daysBefore month + d.day - 1 - epoch

/-- The year, within a cycle of 400, to which a day of the cycle belongs. -/
def yearOfCycle (day : Nat) : Nat :=
  (day - day / 1460 + day / 36524 - day / 146096) / 365

def ofDays (days : Int) : Date :=
  let cycle := (days + epoch) / 146097
  let day := ((days + epoch) % 146097).toNat
  let year := yearOfCycle day
  let dayOfYear := day - (365 * year + year / 4 - year / 100)
  let month := (5 * dayOfYear + 2) / 153
  { year := 400 * cycle + year + (if month < 10 then 0 else 1)
    month := if month < 10 then month + 3 else month - 9
    day := dayOfYear - daysBefore month + 1 }

/-- Dates that the calendar has: they come back from their day. -/
def isValid (d : Date) : Bool := ofDays d.toDays = d

example : ofDays 0 = ⟨1970, 1, 1⟩ ∧ ofDays (-1) = ⟨1969, 12, 31⟩ := by decide
example : ofDays 11016 = ⟨2000, 2, 29⟩ ∧ (Date.mk 2000 2 29).toDays = 11016 := by decide
example : (Date.mk 2100 2 29).isValid = false ∧ (Date.mk (-4) 2 29).isValid := by decide

end Date
end Stowage
