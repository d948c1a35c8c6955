/-! Labels written in ASCII: the letters that are in ASCII, a hyphen, and digits that tell where the others
are to be put in. Each of those is told by how many steps it is away from the one before, a step being
one place in the label or, after the last place, the next code point. -/
namespace Stowage.Domain.Punycode

def base : Nat := 36
def lowest : Nat := 1
def highest : Nat := 26
def firstBias : Nat := 72
def firstPoint : Nat := 0x80

/-- The digit at which a number may end. -/
def threshold (bias place : Nat) : Nat :=
  if place ≤ bias then lowest else if bias + highest ≤ place then highest else place - bias

/-- Divides until few digits are left, and counts the places. -/
def shrink (delta place : Nat) : Nat × Nat :=
  if _h : (base - lowest) * highest / 2 < delta then shrink (delta / (base - lowest)) (place + base)
  else (delta, place)
termination_by delta
decreasing_by simp only [base, lowest, highest] at *; omega

/-- The bias for the next number, when the last one led to a label of `length` characters. -/
def adapt (delta length : Nat) (isFirst : Bool) : Nat :=
  let delta := if isFirst then delta / 700 else delta / 2
  let (delta, place) := shrink (delta + delta / length) 0
  place + base * delta / (delta + 38)

def digitChar (n : Nat) : Char := Char.ofNat (if n < 26 then 'a'.toNat + n else '0'.toNat + n - 26)

def digitValue? (c : Char) : Option Nat :=
  if 'a' ≤ c ∧ c ≤ 'z' then some (c.toNat - 'a'.toNat)
  else if 'A' ≤ c ∧ c ≤ 'Z' then some (c.toNat - 'A'.toNat)
  else if c.isDigit then some (c.toNat - '0'.toNat + 26)
  else none

/-- A number, lowest digit first; `fuel` bounds how many digits there are. -/
def digits (bias : Nat) : Nat → Nat → Nat → List Char
  | 0, _, _ => []
  | fuel + 1, place, n =>
    let t := threshold bias place
    if n < t then [digitChar n]
    else digitChar (t + (n - t) % (base - t)) :: digits bias fuel (place + base) ((n - t) / (base - t))

structure Progress where
  written : List Char
  delta : Nat
  bias : Nat
  /-- How many characters of the label are told. -/
  told : Nat

/-- Passes over one place of the label, or tells the character there. -/
def step (plain point : Nat) (p : Progress) (c : Char) : Progress :=
  if c.toNat < point then { p with delta := p.delta + 1 }
  else if c.toNat = point then
    { written := p.written ++ digits p.bias (p.delta + 1) base p.delta
      delta := 0
      bias := adapt p.delta (p.told + 1) (p.told = plain)
      told := p.told + 1 }
  else p

/-- Tells the characters of each code point in turn, `next` being the first one not gone through. -/
def tellAll (label : List Char) (plain : Nat) : List Nat → Nat → Progress → Progress
  | [], _, p => p
  | point :: points, next, p =>
    let p := { p with delta := p.delta + (point - next) * (p.told + 1) }
    let p := label.foldl (step plain point) p
    tellAll label plain points (point + 1) { p with delta := p.delta + 1 }

def encode (label : List Char) : List Char :=
  let plain := label.filter (·.toNat < firstPoint)
  let points := ((label.filter (firstPoint ≤ ·.toNat)).map (·.toNat)).mergeSort.eraseDups
  let start : Progress := ⟨[], 0, firstBias, plain.length⟩
  plain ++ (if plain.isEmpty then [] else ['-']) ++
    (tellAll label plain.length points firstPoint start).written

/-- Reads a number of 32 bits, and adds it to what is there. -/
def readNumber (bias : Nat) : List Char → Nat → Nat → Nat → Option (Nat × List Char)
  | [], _, _, _ => none
  | c :: cs, place, weight, total => do
    let digit ← digitValue? c
    let total := total + digit * weight
    let t := threshold bias place
    if UInt32.size ≤ total then none
    else if digit < t then some (total, cs)
    else if UInt32.size ≤ weight * (base - t) then none
    else readNumber bias cs (place + base) (weight * (base - t)) total

theorem length_lt_of_readNumber {bias : Nat} {cs rest : List Char} {place weight total n : Nat}
    (h : readNumber bias cs place weight total = some (n, rest)) : rest.length < cs.length := by
  induction cs generalizing place weight total with
  | nil => simp [readNumber] at h
  | cons c cs ih =>
    simp only [readNumber, Option.bind_eq_bind, Option.bind_eq_some_iff] at h
    obtain ⟨digit, _, h⟩ := h
    split at h
    · simp at h
    · split at h
      · simp only [Option.some.injEq, Prod.mk.injEq] at h
        simp [← h.2]
      · split at h
        · simp at h
        · have := ih h
          simp only [List.length_cons]; omega

/-- Puts in the characters that are told. -/
def putIn (label : List Char) (point index bias : Nat) (cs : List Char) : Option (List Char) :=
  if cs.isEmpty then some label
  else
    match _h : readNumber bias cs base 1 index with
    | none => none
    | some (total, rest) =>
      let length := label.length + 1
      let point := point + total / length
      let place := total % length
      if point.isValidChar then
        putIn (label.take place ++ Char.ofNat point :: label.drop place) point (place + 1)
          (adapt (total - index) length (index = 0)) rest
      else none
termination_by cs.length
decreasing_by exact length_lt_of_readNumber _h

/-- The parts before and after the last hyphen, unless that is the first character. -/
def parts (cs : List Char) : List Char × List Char :=
  match cs.reverse.dropWhile (· ≠ '-') with
  | _ :: c :: plain => ((c :: plain).reverse, cs.drop (plain.length + 2))
  | _ => ([], cs)

def decode? (cs : List Char) : Option (List Char) :=
  let (plain, told) := parts cs
  putIn plain firstPoint 0 firstBias told

end Stowage.Domain.Punycode
