import Stowage.Moment.Basic
import Stowage.Number.Decimal
import Stowage.Text.Blank

/-! Reading a moment from its text. Blanks may stand before each number and mark; the offset from UTC
is a `Z` or hours and minutes. -/
namespace Stowage.Moment

inductive Unreadable where
  | invalid | tooShort | outOfRange | tooLong | impossible
deriving DecidableEq, Repr

def Unreadable.message : Unreadable → String
  | invalid => "input contains invalid characters"
  | tooShort => "premature end of input"
  | outOfRange => "input is out of range"
  | tooLong => "trailing input"
  | impossible => "no possible date and time matching input"

namespace Reader

abbrev Reading := Except Unreadable

/-- A number of one to `width` digits; the first range fault is one of its size. -/
def number (width : Nat) (cs : List Char) : Reading (Nat × List Char) :=
  let digits := (cs.take width).takeWhile Char.isDigit
  match digits, cs with
  | [], [] => .error .tooShort
  | [], _ => .error .invalid
  | ds, cs =>
    let n := Number.digitsValue ds
    if n < UInt64.size / 2 then .ok (n, cs.drop ds.length) else .error .outOfRange

def within (low high n : Nat) : Reading Nat :=
  if low ≤ n ∧ n ≤ high then .ok n else .error .outOfRange

def skipBlanks (cs : List Char) : List Char := cs.dropWhile Text.isBlank

def ranged (low high : Nat) (cs : List Char) : Reading (Nat × List Char) := do
  let (n, cs) ← number 2 (skipBlanks cs)
  return (← within low high n, cs)

def mark (c : Char) (cs : List Char) : Reading (List Char) :=
  match skipBlanks cs with
  | [] => .error .tooShort
  | d :: rest => if d = c then .ok rest else .error .invalid

/-- A year has four digits, or any number of them after a sign; the number has 32 bits with its sign. -/
def year (cs : List Char) : Reading (Int × List Char) := do
  let (minus, width, cs) :=
    match skipBlanks cs with
    | '-' :: rest => (true, rest.length, rest)
    | '+' :: rest => (false, rest.length, rest)
    | cs => (false, 4, cs)
  let (n, cs) ← number width cs
  let limit := if minus then UInt32.size / 2 + 1 else UInt32.size / 2
  if limit ≤ n then .error .outOfRange else return (if minus then -n else n, cs)

def date (cs : List Char) : Reading (Date × List Char) := do
  let (y, cs) ← year cs
  let (m, cs) ← ranged 1 12 (← mark '-' cs)
  let (d, cs) ← ranged 1 31 (← mark '-' cs)
  return (⟨y, m, d⟩, cs)

/-- Nine digits after the point count. -/
def fraction (cs : List Char) : Reading (Nat × List Char) :=
  match cs with
  | '.' :: cs => do
    let (n, rest) ← number 9 cs
    return (n * Nat.pow 10 (9 - (cs.length - rest.length)), rest.dropWhile Char.isDigit)
  | cs => .ok (0, cs)

/-- Seconds of the day and nanoseconds; the sixtieth second is a leap second. -/
def time (cs : List Char) : Reading ((Nat × Nat) × List Char) := do
  let (h, cs) ← ranged 0 23 cs
  let (m, cs) ← ranged 0 59 (← mark ':' cs)
  let (s, cs) ← ranged 0 60 (← mark ':' cs)
  let (n, cs) ← fraction cs
  let whole := 3600 * h + 60 * m
  return (if s = 60 then (whole + 59, n + Span.nanosPerSecond) else (whole + s, n), cs)

/-- Two bytes that are digits; one character of two bytes is not too short. -/
def twoDigits (cs : List Char) : Reading (Nat × List Char) :=
  match cs with
  | [] => .error .tooShort
  | [a] => .error (if a.utf8Size < 2 then .tooShort else .invalid)
  | a :: b :: rest =>
    if a.isDigit ∧ b.isDigit then .ok (Number.digitsValue [a, b], rest) else .error .invalid

def signedOffset (minus : Bool) (cs : List Char) : Reading (Int × List Char) := do
  let (h, cs) ← twoDigits cs
  let (m, cs) ← twoDigits (cs.dropWhile fun c => c = ':' || Text.isBlank c)
  if 60 ≤ m then .error .outOfRange
  else
    let seconds : Int := 3600 * h + 60 * m
    return (if minus then -seconds else seconds, cs)

/-- Seconds that the local time is ahead of UTC. -/
def offset (cs : List Char) : Reading (Int × List Char) :=
  match cs with
  | [] => .error .tooShort
  | 'Z' :: rest | 'z' :: rest => .ok (0, rest)
  | '+' :: rest => signedOffset false rest
  | '-' :: rest | '\u2212' :: rest => signedOffset true rest
  | u :: t :: c :: rest =>
    if u.toUpper = 'U' ∧ t.toUpper = 'T' ∧ c.toUpper = 'C' then .ok (0, rest) else .error .invalid
  | _ => .error .invalid

def separator (cs : List Char) : Reading (List Char) :=
  match cs with
  | [] => .error .tooShort
  | 'T' :: rest | 't' :: rest | ' ' :: rest => .ok rest
  | _ => .error .invalid

def yearInRange (year : Int) : Bool := -262143 ≤ year && year ≤ 262142

end Reader

open Moment.Reader in
def read (text : String) : Reading Moment := do
  let (date, cs) ← Moment.Reader.date text.toList
  let cs ← separator cs
  let ((second, nanos), cs) ← time cs
  let (ahead, cs) ← offset (skipBlanks cs)
  if !(skipBlanks cs).isEmpty then .error .tooLong
  else if !yearInRange date.year || !date.isValid || 86400 ≤ ahead.natAbs then .error .outOfRange
  else
    let seconds := date.toDays * 86400 + second - ahead
    if yearInRange (Date.ofDays (seconds / 86400)).year then return ⟨seconds, nanos⟩
    else .error .impossible

end Stowage.Moment
