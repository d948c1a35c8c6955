import Stowage.Number.Double

/-! The shortest decimal that reads back as a given double, and its text. -/
namespace Stowage.Number

/-- The number `digits · 10 ^ exponent`. -/
structure Scientific where
  digits : Nat
  exponent : Int
deriving DecidableEq, Repr

/-- The grid of the multiples of `10 ^ exponent`, as the fraction `up / down`. -/
structure Grid where
  exponent : Int
  up : Nat
  down : Nat

def Grid.at (exponent : Int) : Grid :=
  ⟨exponent, Nat.pow 10 exponent.toNat, Nat.pow 10 (-exponent).toNat⟩

namespace Grid

/-- A multiple of the grid, in quarters of a unit and times `down`. -/
def quarters (g : Grid) (n : Nat) : Nat := 4 * n * g.up * unitsPerOne

/-- Whether the multiple reads back as `units`: it lies between the two halfway points, which belong
to the interval when the significand is even. Below a power of two the spacing is halved. -/
def readsBack (g : Grid) (units n : Nat) : Bool :=
  let step := spacing units
  let significand := units / step
  let below := if significand = 1 <<< 52 && 1 < step then step else 2 * step
  let low := (4 * units - below) * g.down
  let high := (4 * units + 2 * step) * g.down
  let point := g.quarters n
  if significand % 2 = 0 then low ≤ point && point ≤ high else low < point && point < high

def distance (g : Grid) (units n : Nat) : Nat :=
  let value := 4 * units * g.down
  let point := g.quarters n
  (value - point) + (point - value)

/-- The neighbour of `units` on the grid that reads back, the nearer one where both do. -/
def neighbour (g : Grid) (units : Nat) : Option Nat :=
  let low := units * g.down / (g.up * unitsPerOne)
  match g.readsBack units low, g.readsBack units (low + 1) with
  | false, false => none
  | true, false => some low
  | false, true => some (low + 1)
  | true, true =>
    let a := g.distance units low
    let b := g.distance units (low + 1)
    if a < b then some low
    else if b < a then some (low + 1)
    else if low % 2 = 0 then some low else some (low + 1)

end Grid

/-- Exponent of the leading decimal digit of a positive double. -/
def leadingExponent (units : Nat) : Int :=
  ((Nat.toDigits 10 (units * Nat.pow 10 324 / unitsPerOne)).length : Int) - 325

/-- The shortest decimal for a positive double: seventeen digits always read back. -/
def shortest (units : Nat) : Scientific :=
  let lead := leadingExponent units
  let tries := (List.range 17).filterMap fun (n : Nat) =>
    let grid := Grid.at (lead - n)
    (grid.neighbour units).map fun digits =>
      -- On the coarsest grid the upper neighbour may be the next power of ten.
      if digits = 10 then ⟨1, grid.exponent + 1⟩ else ⟨digits, grid.exponent⟩
  tries.head?.getD ⟨0, 0⟩

def zeros (n : Int) : String := String.ofList (List.replicate n.toNat '0')

/-- Puts the point before the digit of the given index. -/
def pointed (digits : String) (index : Int) : String :=
  if index ≤ 0 then "0." ++ zeros (-index) ++ digits
  else
    let cs := digits.toList
    if cs.length ≤ index then digits ++ zeros (index - cs.length) ++ ".0"
    else String.ofList (cs.take index.toNat) ++ "." ++ String.ofList (cs.drop index.toNat)

/-- Positional from 10⁻⁵ up to 10¹⁶, else with a power of ten. -/
def compact (units : Nat) : String :=
  if units = 0 then "0.0"
  else
    let s := shortest units
    let digits := toString s.digits
    let index := digits.length + s.exponent
    if -5 < index && index ≤ 16 then pointed digits index
    else
      let power := "e" ++ (if 0 < index then "+" else "") ++ toString (index - 1)
      match digits.toList with
      | [] => power
      | [d] => d.toString ++ power
      | d :: rest => d.toString ++ "." ++ String.ofList rest ++ power

end Stowage.Number
