import Stowage.Document.Reader

/-! Passing over values that nobody asks for. They are looked at less closely than values that are
read: numbers have no range, halves of characters may stand alone, and there is no limit to nesting. -/
namespace Stowage.Reader

def skipEscape (rest : List Char) (offset : Nat) : Reading Cursor :=
  match rest with
  | [] => failAt .endInString offset
  | 'u' :: rest => (·.2) <$> hexQuad rest (offset + 1)
  | c :: rest =>
    if (simpleEscape c).isSome then .ok ⟨rest, offset + 1⟩ else failAt .invalidEscape (offset + 1)

def skipString : Nat → List Char → Nat → Reading Cursor
  | 0, _, offset => failAt .endInString offset
  | fuel + 1, cs, offset =>
    match cs with
    | [] => failAt .endInString offset
    | '"' :: rest => .ok ⟨rest, offset + 1⟩
    | '\\' :: rest => do
      let next ← skipEscape rest (offset + 1)
      skipString fuel next.rest next.offset
    | c :: rest =>
      if c.toNat < 0x20 then failAt .controlCharacter offset
      else skipString fuel rest (offset + c.utf8Size)

def skipExponent (c : Cursor) : Reading Cursor :=
  match c.rest with
  | 'e' :: rest | 'E' :: rest =>
    let c :=
      match rest with
      | '-' :: _ | '+' :: _ => c.step.step
      | _ => c.step
    match digits c with
    | ([], c) => c.fail .invalidNumber
    | (_, c) => .ok c
  | _ => .ok c

def skipNumber (c : Cursor) : Reading Cursor :=
  match digits c with
  | ([], c) => c.fail .invalidNumber
  | ('0' :: _ :: _, _) => failAt .invalidNumber (c.offset + 2)
  | (_, c) =>
    match c.rest with
    | '.' :: _ =>
      match digits c.step with
      | ([], c) => c.fail .invalidNumber
      | (_, c) => skipExponent c
    | _ => skipExponent c

/-- A container that is not closed yet. -/
inductive Frame where
  | list | object
deriving DecidableEq, Repr

namespace Frame

def close : Frame → Char
  | list => ']'
  | object => '\x7d'

def atEnd : Frame → Malformed
  | list => .endInList
  | object => .endInObject

def withoutComma : Frame → Malformed
  | list => .expectedListComma
  | object => .expectedObjectComma

end Frame

/-- Closes containers up to the place of the next value, and gives those that are still open. -/
def closeFrames (afterValue : Bool) : List Frame → Cursor → Reading (List Frame × Cursor)
  | [], c => .ok ([], c)
  | f :: fs, c =>
    let c := c.trimmed
    match c.rest with
    | [] => c.fail f.atEnd
    | ch :: _ =>
      if ch = ',' ∧ afterValue then .ok (f :: fs, c.step)
      else if ch = f.close then closeFrames true fs c.step
      else if afterValue then c.fail f.withoutComma
      else .ok (f :: fs, c)

def skipName (c : Cursor) : Reading Cursor :=
  let c := c.trimmed
  match c.rest with
  | [] => c.fail .endInObject
  | '"' :: rest => do colon (← skipString (rest.length + 1) rest (c.offset + 1))
  | _ => c.fail .keyNotString

/-- A value that is no container, or the start of a container. -/
def skipStart (ch : Char) (c : Cursor) : Reading (Option Frame × Cursor) :=
  let leaf : Reading Cursor → Reading (Option Frame × Cursor) := Except.map fun c => (none, c)
  if ch = '[' then .ok (some .list, c.step)
  else if ch = '\x7b' then .ok (some .object, c.step)
  else if ch = '"' then leaf (skipString c.rest.length (c.rest.drop 1) (c.offset + 1))
  else if ch = '-' then leaf (skipNumber c.step)
  else if ch.isDigit then leaf (skipNumber c)
  else
    match scalar? ch c with
    | some reading => leaf ((·.2) <$> reading)
    | none => c.fail .expectedValue

/-- A value and all that closes the open containers after it, by as many tries as there are characters. -/
def skipValues (frames : List Frame) : Nat → Cursor → Reading Cursor
  | 0, c => c.fail .endInValue
  | fuel + 1, c => do
    let c := c.trimmed
    match c.rest with
    | [] => c.fail .endInValue
    | ch :: _ =>
      let (opened, c) ← skipStart ch c
      let (frames, c) ← closeFrames opened.isNone (opened.toList ++ frames) c
      match frames with
      | [] => return c
      | .list :: _ => skipValues frames fuel c
      | .object :: _ => do skipValues frames fuel (← skipName c)

def skip (c : Cursor) : Reading Cursor := skipValues [] (c.rest.length + 1) c

end Stowage.Reader
