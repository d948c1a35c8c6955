/-! Decimal numerals: the value of a row of digits, and of digits around a point. -/
namespace Stowage.Number

def digitValue (c : Char) : Nat := c.toNat - '0'.toNat

def digitsValue (cs : List Char) : Nat := cs.foldl (fun n c => 10 * n + digitValue c) 0

/-- The number `digits / 10 ^ places`. -/
structure Decimal where
  digits : Nat
  places : Nat
deriving DecidableEq, Repr

/-- A numeral has a digit, at most one point, and nothing else. -/
def Decimal.read? (cs : List Char) : Option Decimal :=
  let whole := cs.takeWhile Char.isDigit
  match cs.dropWhile Char.isDigit with
  | [] => if whole.isEmpty then none else some ⟨digitsValue whole, 0⟩
  | '.' :: fraction =>
    if fraction.all Char.isDigit && !(whole.isEmpty && fraction.isEmpty) then
      some ⟨digitsValue (whole ++ fraction), fraction.length⟩
    else none
  | _ => none

example : Decimal.read? "5.".toList = some ⟨5, 0⟩ := by decide
example : Decimal.read? ".25".toList = some ⟨25, 2⟩ := by decide
example : Decimal.read? ".".toList = none ∧ Decimal.read? "1.2.3".toList = none := by decide

end Stowage.Number
