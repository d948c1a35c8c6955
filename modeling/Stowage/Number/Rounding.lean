/-! Rounding a quotient of naturals to an integer, and to a number of 53 significant bits. In both a
tie goes to the even neighbour. -/
namespace Stowage.Number

/-- The natural nearest to `num / den`. -/
def roundDiv (num den : Nat) : Nat :=
  let low := num / den
  let rest := num % den
  if den < 2 * rest then low + 1
  else if 2 * rest < den then low
  else if low % 2 = 0 then low else low + 1

/-- Distance between the numbers of 53 significant bits around `n`. -/
def spacing (n : Nat) : Nat := 1 <<< (n.log2 - 52)

def roundQuotient (num den : Nat) : Nat :=
  let step := spacing (num / den)
  roundDiv num (den * step) * step

theorem roundDiv_mul_right (n : Nat) {d : Nat} (h : 0 < d) : roundDiv (n * d) d = n := by
  simp [roundDiv, Nat.mul_div_cancel _ h, h]

example : roundDiv 5 2 = 2 ∧ roundDiv 7 2 = 4 ∧ roundDiv 8 3 = 3 := by decide
example : roundQuotient (1 <<< 53 + 1) 1 = 1 <<< 53 ∧ roundQuotient (1 <<< 53 + 3) 1 = 1 <<< 53 + 4 := by
  decide

end Stowage.Number
