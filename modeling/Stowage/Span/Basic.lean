/-! Lengths of time, counted in nanoseconds, and their text in the largest unit of which there is a
whole one. -/
namespace Stowage

structure Span where
  nanos : Nat
deriving DecidableEq, Repr

namespace Span

def zero : Span := ⟨0⟩

def nanosPerSecond : Nat := 1000000000

def ofSeconds (n : Nat) : Span := ⟨n * nanosPerSecond⟩

def seconds (s : Span) : Nat := s.nanos / nanosPerSecond

/-- Nanoseconds beyond the whole seconds. -/
def subseconds (s : Span) : Nat := s.nanos % nanosPerSecond

/-- The digits after the point of `rest / 10 ^ places`, without zeros at the end. -/
def fractionText (rest places : Nat) : String :=
  let digits := toString rest
  let padded := List.replicate (places - digits.length) '0' ++ digits.toList
  match (padded.reverse.dropWhile (· = '0')).reverse with
  | [] => ""
  | ds => "." ++ String.ofList ds

def inUnit (nanos places : Nat) (unit : String) : String :=
  toString (nanos / Nat.pow 10 places) ++ fractionText (nanos % Nat.pow 10 places) places ++ unit

def text (s : Span) : String :=
  if nanosPerSecond ≤ s.nanos then inUnit s.nanos 9 "s"
  else if 1000000 ≤ s.nanos then inUnit s.nanos 6 "ms"
  else if 1000 ≤ s.nanos then inUnit s.nanos 3 "µs"
  else inUnit s.nanos 0 "ns"

example : text ⟨1001⟩ = "1.001µs" ∧ text ⟨3600000000010⟩ = "3600.00000001s" := by decide +kernel

end Span
end Stowage
