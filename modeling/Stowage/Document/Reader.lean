import Stowage.Bytes
import Stowage.Document.Misfit
import Stowage.Number.Significand

/-! Reading the text of a document. The first thing that cannot be read is reported with the offset, in
bytes, at which it was noticed. -/
namespace Stowage

inductive Malformed where
  | endInValue | endInList | endInObject | endInString
  | expectedValue | expectedWord | expectedColon
  | expectedListComma | expectedObjectComma
  | keyNotString | trailingComma | trailingCharacters
  | invalidEscape | endOfEscape | loneSurrogate | controlCharacter
  | invalidNumber | numberOutOfRange
  | tooDeep
deriving DecidableEq, Repr

def Malformed.message : Malformed → String
  | endInValue => "EOF while parsing a value"
  | endInList => "EOF while parsing a list"
  | endInObject => "EOF while parsing an object"
  | endInString => "EOF while parsing a string"
  | expectedValue => "expected value"
  | expectedWord => "expected ident"
  | expectedColon => "expected `:`"
  | expectedListComma => "expected `,` or `]`"
  | expectedObjectComma => "expected `,` or `\x7d`"
  | keyNotString => "key must be a string"
  | trailingComma => "trailing comma"
  | trailingCharacters => "trailing characters"
  | invalidEscape => "invalid escape"
  | endOfEscape => "unexpected end of hex escape"
  | loneSurrogate => "lone leading surrogate in hex escape"
  | controlCharacter => "control character (\\u0000-\\u001F) found while parsing a string"
  | invalidNumber => "invalid number"
  | numberOutOfRange => "number out of range"
  | tooDeep => "recursion limit exceeded"

namespace Reader

/-- Why reading stops: the text is no document, or the document is not of the type that is read. -/
inductive Cause where
  | malformed (cause : Malformed)
  | misfit (cause : Misfit)

def Cause.message : Cause → String
  | malformed m => m.message
  | misfit m => m.message

structure Failure where
  cause : Cause
  offset : Nat

def Failure.message (f : Failure) : String := f.cause.message

structure Cursor where
  rest : List Char
  offset : Nat

abbrev Reading := Except Failure

def failAt {α : Type} (cause : Malformed) (offset : Nat) : Reading α := .error ⟨.malformed cause, offset⟩

namespace Cursor

def skipBlanks : List Char → Nat → Cursor
  | [], offset => ⟨[], offset⟩
  | c :: rest, offset =>
    if c = ' ' ∨ c = '\n' ∨ c = '\t' ∨ c = '\r' then skipBlanks rest (offset + 1)
    else ⟨c :: rest, offset⟩

def trimmed (c : Cursor) : Cursor := skipBlanks c.rest c.offset

/-- The offset of the byte after the next one, or of the end. -/
def next (c : Cursor) : Nat := if c.rest.isEmpty then c.offset else c.offset + 1

def fail {α : Type} (c : Cursor) (cause : Malformed) : Reading α := failAt cause c.next

def step (c : Cursor) : Cursor := ⟨c.rest.drop 1, c.offset + 1⟩

end Cursor

/-- The rest of a word of which the first letter is read. -/
def word {α : Type} (value : α) : List Char → List Char → Nat → Reading (α × Cursor)
  | [], rest, offset => .ok (value, ⟨rest, offset⟩)
  | _ :: _, [], offset => failAt .endInValue offset
  | w :: ws, c :: rest, offset =>
    if c = w then word value ws rest (offset + 1) else failAt .expectedWord (offset + 1)

def utf8Length (cs : List Char) : Nat := cs.foldl (fun n c => n + c.utf8Size) 0

/-- Four hexadecimal digits; four bytes are looked at before the first of them is judged. -/
def hexQuad (cs : List Char) (offset : Nat) : Reading (Nat × Cursor) :=
  let size := utf8Length (cs.take 4)
  if size < 4 then failAt .endInString (offset + size)
  else
    match (cs.take 4).mapM Bytes.hexValue? with
    | some [a, b, c, d] => .ok (((a * 16 + b) * 16 + c) * 16 + d, ⟨cs.drop 4, offset + 4⟩)
    | _ => failAt .invalidEscape (offset + 4)

def simpleEscape (c : Char) : Option Char :=
  if c = '"' ∨ c = '\\' ∨ c = '/' then some c
  else if c = 'b' then some '\x08'
  else if c = 'f' then some '\x0c'
  else if c = 'n' then some '\n'
  else if c = 'r' then some '\r'
  else if c = 't' then some '\t'
  else none

def isHighSurrogate (n : Nat) : Bool := 0xd800 ≤ n && n ≤ 0xdbff
def isLowSurrogate (n : Nat) : Bool := 0xdc00 ≤ n && n ≤ 0xdfff

/-- The second half of a character above U+FFFF. -/
def lowSurrogate (c : Cursor) : Reading (Nat × Cursor) :=
  match c.rest with
  | [] => failAt .endInString c.offset
  | '\\' :: [] => failAt .endInString (c.offset + 1)
  | '\\' :: 'u' :: rest => do
    let (low, c) ← hexQuad rest (c.offset + 2)
    if isLowSurrogate low then return (low, c) else failAt .loneSurrogate c.offset
  | '\\' :: _ => failAt .endOfEscape (c.offset + 2)
  | _ => failAt .endOfEscape (c.offset + 1)

/-- A character by its number in UTF-16, after the letter that marks it. -/
def unicodeEscape (rest : List Char) (offset : Nat) : Reading (Char × Cursor) := do
  let (high, c) ← hexQuad rest offset
  if isLowSurrogate high then failAt .loneSurrogate c.offset
  else if isHighSurrogate high then
    let (low, c) ← lowSurrogate c
    return (Char.ofNat (0x10000 + (high - 0xd800) * 0x400 + (low - 0xdc00)), c)
  else return (Char.ofNat high, c)

def escape (rest : List Char) (offset : Nat) : Reading (Char × Cursor) :=
  match rest with
  | [] => failAt .endInString offset
  | 'u' :: rest => unicodeEscape rest (offset + 1)
  | c :: rest =>
    match simpleEscape c with
    | some plain => .ok (plain, ⟨rest, offset + 1⟩)
    | none => failAt .invalidEscape (offset + 1)

/-- The rest of a string up to its closing quote, after the characters read so far, last first, by as
many tries as there are characters. -/
def stringRest (seen : List Char) : Nat → List Char → Nat → Reading (String × Cursor)
  | 0, _, offset => failAt .endInString offset
  | fuel + 1, cs, offset =>
    match cs with
    | [] => failAt .endInString offset
    | '"' :: rest => .ok (String.ofList seen.reverse, ⟨rest, offset + 1⟩)
    | '\\' :: rest => do
      let (c, next) ← escape rest (offset + 1)
      stringRest (c :: seen) fuel next.rest next.offset
    | c :: rest =>
      if c.toNat < 0x20 then failAt .controlCharacter (offset + 1)
      else stringRest (c :: seen) fuel rest (offset + c.utf8Size)

def string (rest : List Char) (offset : Nat) : Reading (String × Cursor) :=
  stringRest [] (rest.length + 1) rest offset

def digits (c : Cursor) : List Char × Cursor :=
  let ds := c.rest.takeWhile Char.isDigit
  (ds, ⟨c.rest.drop ds.length, c.offset + ds.length⟩)

open Number (Significand)

def double (minus : Bool) (s : Significand) (c : Cursor) : Reading (Numeral × Cursor) :=
  match Numeral.ofDouble minus s.toDouble with
  | some n => .ok (n, c)
  | none => failAt .numberOutOfRange c.offset

/-- How many digits there are up to the one with which the number exceeds 31 bits, if it does. -/
def excess? (value count : Nat) : List Char → Option Nat
  | [] => none
  | c :: cs =>
    let next := 10 * value + Number.digitValue c
    if next < UInt32.size / 2 then excess? next (count + 1) cs else some (count + 1)

/-- The exponent of a number, after its mark. -/
def exponentRest (minus : Bool) (s : Significand) (c : Cursor) : Reading (Numeral × Cursor) :=
  let (down, c) : Bool × Cursor :=
    match c.rest with
    | '-' :: _ => (true, c.step)
    | '+' :: _ => (false, c.step)
    | _ => (false, c)
  match digits c with
  | ([], _) => c.fail (if c.rest.isEmpty then .endInValue else .invalidNumber)
  | (ds, after) =>
    match excess? 0 0 ds with
    | none =>
      let power : Int := Number.digitsValue ds
      double minus (s.scale (if down then -power else power)) after
    | some count =>
      if s.digits = 0 ∨ down then .ok (.floating minus 0, after)
      else failAt .numberOutOfRange (c.offset + count)

def exponentOrEnd (minus : Bool) (s : Significand) (c : Cursor) : Reading (Numeral × Cursor) :=
  match c.rest with
  | 'e' :: _ | 'E' :: _ => exponentRest minus s c.step
  | _ => double minus s c

def fractionOrEnd (minus : Bool) (whole : List Char) (c : Cursor) : Reading (Numeral × Cursor) :=
  let s := Significand.ofWhole whole
  match c.rest with
  | '.' :: _ =>
    match digits c.step with
    | ([], c) => c.fail (if c.rest.isEmpty then .endInValue else .invalidNumber)
    | (ds, c) => exponentOrEnd minus (s.addFraction ds) c
  | 'e' :: _ | 'E' :: _ => exponentOrEnd minus s c
  | _ =>
    match Numeral.ofInteger minus (Number.digitsValue whole) with
    | some n => .ok (n, c)
    | none => double minus s c

/-- A number after its sign: no zero stands before other digits. -/
def number (minus : Bool) (c : Cursor) : Reading (Numeral × Cursor) :=
  match digits c with
  | ([], c) => c.fail (if c.rest.isEmpty then .endInValue else .invalidNumber)
  | ('0' :: _ :: _, _) => failAt .invalidNumber (c.offset + 2)
  | (ds, c) => fractionOrEnd minus ds c

abbrev Element := Cursor → Reading (Document × Cursor)

def scalar? (ch : Char) (c : Cursor) : Option (Reading (Document × Cursor)) :=
  let after := c.offset + 1
  let rest := c.rest.drop 1
  let made {α : Type} (make : α → Document) : Reading (α × Cursor) → Reading (Document × Cursor) :=
    Except.map fun (a, c) => (make a, c)
  if ch = 'n' then some (word .null "ull".toList rest after)
  else if ch = 't' then some (word (.bool true) "rue".toList rest after)
  else if ch = 'f' then some (word (.bool false) "alse".toList rest after)
  else if ch = '"' then some (made .string (string rest after))
  else if ch = '-' then some (made .number (number true ⟨rest, after⟩))
  else if ch.isDigit then some (made .number (number false c))
  else none

/-- Goes to the next item of a list, or to its closing bracket. -/
def nextItem (first : Bool) (c : Cursor) : Reading (Bool × Cursor) :=
  let c := c.trimmed
  match c.rest with
  | [] => c.fail .endInList
  | ']' :: _ => .ok (false, c)
  | ch :: _ =>
    if first then .ok (true, c)
    else if ch = ',' then
      let c := c.step.trimmed
      match c.rest with
      | [] => c.fail .endInValue
      | ']' :: _ => c.fail .trailingComma
      | _ => .ok (true, c)
    else c.fail .expectedListComma

def nextName (first : Bool) (c : Cursor) : Reading (Option String × Cursor) :=
  let c := c.trimmed
  let name (c : Cursor) : Reading (Option String × Cursor) := do
    let (name, c) ← string (c.rest.drop 1) (c.offset + 1)
    return (some name, c)
  match c.rest with
  | [] => c.fail .endInObject
  | '\x7d' :: _ => .ok (none, c)
  | ch :: _ =>
    if first then if ch = '"' then name c else c.fail .keyNotString
    else if ch = ',' then
      let c := c.step.trimmed
      match c.rest with
      | [] => c.fail .endInValue
      | '\x7d' :: _ => c.fail .trailingComma
      | '"' :: _ => name c
      | _ => c.fail .keyNotString
    else c.fail .expectedObjectComma

def colon (c : Cursor) : Reading Cursor :=
  let c := c.trimmed
  match c.rest with
  | [] => c.fail .endInObject
  | ':' :: _ => .ok c.step
  | _ => c.fail .expectedColon

/-- The items of a list up to its closing bracket, by as many tries as there are characters. -/
def items (element : Element) (first : Bool) (seen : List Document) :
    Nat → Cursor → Reading (List Document × Cursor)
  | 0, c => c.fail .endInList
  | fuel + 1, c => do
    let (more, c) ← nextItem first c
    if more then
      let (d, c) ← element c
      items element false (d :: seen) fuel c
    else return (seen.reverse, c.step)

/-- The members of an object up to its closing brace, by as many tries as there are characters. -/
def members (element : Element) (first : Bool) (seen : List (String × Document)) :
    Nat → Cursor → Reading (List (String × Document) × Cursor)
  | 0, c => c.fail .endInObject
  | fuel + 1, c => do
    let (name, c) ← nextName first c
    match name with
    | none => return (seen.reverse, c.step)
    | some name =>
      let (d, c) ← element (← colon c)
      members element false ((name, d) :: seen) fuel c

/-- A value whose containers are nested less than `depth` deep. -/
def value (depth : Nat) (c : Cursor) : Reading (Document × Cursor) :=
  let c := c.trimmed
  match c.rest with
  | [] => c.fail .endInValue
  | ch :: rest =>
    match scalar? ch c with
    | some reading => reading
    | none =>
      if ch = '[' then
        match depth with
        | 0 | 1 => c.fail .tooDeep
        | depth + 1 => do
          let (inner, c) ← items (value depth) true [] (rest.length + 1) c.step
          return (.array inner, c)
      else if ch = '\x7b' then
        match depth with
        | 0 | 1 => c.fail .tooDeep
        | depth + 1 => do
          let (inner, c) ← members (value depth) true [] (rest.length + 1) c.step
          return (.ofMembers inner, c)
      else c.fail .expectedValue

def depthLimit : Nat := 128

def whole (element : Element) (text : String) : Reading Document := do
  let (d, c) ← element ⟨text.toList, 0⟩
  let c := c.trimmed
  if c.rest.isEmpty then return d else c.fail .trailingCharacters

end Reader

def Document.read (text : String) : Except Reader.Failure Document :=
  Reader.whole (Reader.value Reader.depthLimit) text

end Stowage
