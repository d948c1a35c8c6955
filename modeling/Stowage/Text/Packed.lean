import Stowage.Bytes

/-! Tables of code points, packed into texts. An entry is a code point or a range, in hexadecimal, then
a colon and its values where it has some: `41-5a:61`. A slash in place of the hyphen takes every other
code point of the range. -/
namespace Stowage.Text

structure Row where
  first : Nat
  last : Nat
  step : Nat
  values : List Nat
deriving DecidableEq, Repr

namespace Row

def holds (r : Row) (n : Nat) : Bool :=
  r.first ≤ n && n ≤ r.last && (n - r.first) % r.step = 0

def number (digits : String) : Nat :=
  digits.toList.foldl (fun n c => 16 * n + (Bytes.hexValue? c).getD 0) 0

def ofRange (step : Nat) (bounds : List String) (values : List Nat) : Row :=
  let first := number (bounds.headD "")
  ⟨first, ((bounds.drop 1).map number).headD first, step, values⟩

def read (entry : String) : Row :=
  let (range, values) :=
    match entry.splitOn ":" with
    | [range, values] => (range, if values.isEmpty then [] else (values.splitOn ".").map number)
    | _ => (entry, [])
  match range.splitOn "/" with
  | [_] => ofRange 1 (range.splitOn "-") values
  | bounds => ofRange 2 bounds values

end Row

/-- Rows in the order of their code points. -/
structure Packed where
  rows : Array Row

namespace Packed

def ofLines (lines : List String) : Packed :=
  ⟨(lines.flatMap fun line => (line.splitOn " ").map Row.read).toArray⟩

def findBetween (rows : Array Row) (n low high : Nat) : Option Row :=
  if _h : low < high then
    let middle := (low + high) / 2
    match rows[middle]? with
    | none => none
    | some r =>
      if n < r.first then findBetween rows n low middle
      else if r.last < n then findBetween rows n (middle + 1) high
      else if r.holds n then some r
      else none
  else none
termination_by high - low

def find? (t : Packed) (c : Char) : Option Row := findBetween t.rows c.toNat 0 t.rows.size

def contains (t : Packed) (c : Char) : Bool := (t.find? c).isSome

/-- The first value of a character, or zero. -/
def value (t : Packed) (c : Char) : Nat := ((t.find? c).bind (·.values.head?)).getD 0

end Packed
end Stowage.Text
