import Stowage.Document.Skipping

/-! Reading the text of a document of which the type is known. What does not fit is noticed on the way,
before the rest of the text is looked at, and members that no field asks for are passed over. -/
namespace Stowage

/-- Reads a value whose containers are nested less deep than the number says, and keeps what matters. -/
abbrev Scanner := Nat → Reader.Element

/-- What it means that a field is not there: an object may leave out a nullable one, an array only those
that have a default. -/
inductive Absence where
  | required | nullable | defaulted
deriving DecidableEq, Repr

structure FieldScanner where
  name : String
  absence : Absence
  scan : Scanner

namespace Reader.Cursor

/-- Where an object is left that cannot be read on: behind its brace, if that is next. -/
def afterBrace (c : Cursor) : Nat :=
  let c := c.trimmed
  match c.rest with
  | '\x7d' :: _ => c.offset + 1
  | _ => c.offset

/-- Where a list is left that cannot be read on: behind its bracket or a comma, if that is next. -/
def afterBracket (c : Cursor) : Nat :=
  let c := c.trimmed
  match c.rest with
  | ']' :: _ => c.offset + 1
  | ',' :: _ => c.step.trimmed.offset
  | _ => c.offset

end Reader.Cursor

namespace Scanner

open Reader

def unfit {α : Type} (misfit : Misfit) (offset : Nat) : Reading α := .error ⟨.misfit misfit, offset⟩

/-- The next thing to read: a value that is no container, or the first character of something else. -/
def peek (c : Cursor) (plain : Reading (Document × Cursor) → Reading (Document × Cursor))
    (container : Char → Cursor → Reading (Document × Cursor)) : Reading (Document × Cursor) :=
  let c := c.trimmed
  match c.rest with
  | [] => c.fail .endInValue
  | ch :: _ =>
    match scalar? ch c with
    | some reading => plain reading
    | none => container ch c

/-- What is no container here, though one is expected. -/
def notContainer (expected : String) : Reading (Document × Cursor) → Reading (Document × Cursor) :=
  (Except.bind · fun (d, c) => unfit (.wrongKind d expected) c.offset)

/-- A container of the wrong kind, or no value at all. -/
def otherContainer (expected : String) (ch : Char) (c : Cursor) : Reading (Document × Cursor) :=
  if ch = '[' then unfit (.wrongKind (.array []) expected) c.offset
  else if ch = '\x7b' then unfit (.wrongKind (.object []) expected) c.offset
  else c.fail .expectedValue

/-- Goes into a container, unless it is nested too deep. -/
def enter (depth : Nat) (c : Cursor) (inside : Nat → Cursor → Reading (Document × Cursor)) :
    Reading (Document × Cursor) :=
  match depth with
  | 0 | 1 => c.fail .tooDeep
  | depth + 1 => inside depth c.step

def any : Scanner := Reader.value

/-- A value that is no container, looked at as soon as it is read. -/
def scalar (expected : String) (check : Document → Except Misfit Unit) : Scanner := fun _ c =>
  peek c
    (Except.bind · fun (d, c) =>
      match check d with
      | .ok () => .ok (d, c)
      | .error misfit => unfit misfit c.offset)
    (otherContainer expected)

def orNull (scan : Scanner) : Scanner := fun depth c =>
  let c := c.trimmed
  match c.rest with
  | 'n' :: rest => word .null "ull".toList rest (c.offset + 1)
  | _ => scan depth c

def list (scan : Scanner) : Scanner := fun depth c =>
  peek c (notContainer "a sequence") fun ch c =>
    if ch = '[' then
      enter depth c fun depth c => do
        let (ds, c) ← items (scan depth) true [] (c.rest.length + 1) c
        return (.array ds, c)
    else otherContainer "a sequence" ch c

def table (scan : Scanner) : Scanner := fun depth c =>
  peek c (notContainer "a map") fun ch c =>
    if ch = '\x7b' then
      enter depth c fun depth c => do
        let (ms, c) ← members (scan depth) true [] (c.rest.length + 1) c
        return (.ofMembers ms, c)
    else otherContainer "a map" ch c

/-- The members of an object for which there are fields, by as many tries as there are characters. -/
def named (fields : List FieldScanner) (once : Bool) (depth : Nat) (first : Bool)
    (seen : List (String × Document)) : Nat → Cursor → Reading (List (String × Document) × Cursor)
  | 0, c => c.fail .endInObject
  | fuel + 1, c => do
    let (name, c) ← nextName first c
    match name with
    | none => return (seen.reverse, c.step)
    | some name =>
      match fields.find? (·.name = name) with
      | none => named fields once depth false seen fuel (← skip (← colon c))
      | some field =>
        if once && seen.any (·.1 = name) then unfit (.repeatedField name) c.afterBrace
        else
          let (d, c) ← field.scan depth (← colon c)
          named fields once depth false ((name, d) :: seen) fuel c

def object (fields : List FieldScanner) (once : Bool) (depth : Nat) (c : Cursor) :
    Reading (Document × Cursor) := do
  let (ms, c) ← named fields once depth true [] (c.rest.length + 1) c
  match fields.find? fun f => f.absence = .required && !ms.any (·.1 = f.name) with
  | some field => unfit (.missingField field.name) c.offset
  | none => return (.ofMembers ms, c)

/-- The fields of a record in order; `index` of them are before the rest. -/
def listed (record : String) (size depth : Nat) (first : Bool) (seen : List Document) (index : Nat) :
    List FieldScanner → Cursor → Reading (List Document × Cursor)
  | [], c => .ok (seen.reverse, c)
  | field :: rest, c => do
    let (more, c) ← nextItem first c
    if more then
      let (d, c) ← field.scan depth c
      listed record size depth false (d :: seen) (index + 1) rest c
    else if field.absence = .defaulted then listed record size depth first seen (index + 1) rest c
    else unfit (.tooFew index record size) c.afterBracket

def closeBracket (c : Cursor) : Reading Cursor :=
  let c := c.trimmed
  match c.rest with
  | [] => c.fail .endInList
  | ']' :: _ => .ok c.step
  | ',' :: _ =>
    let c := c.step.trimmed
    match c.rest with
    | ']' :: _ => c.fail .trailingComma
    | _ => c.fail .trailingCharacters
  | _ => c.fail .trailingCharacters

/-- A record that must be an object. Of members with one name the last counts. -/
def members (expected : String) (fields : List FieldScanner) : Scanner := fun depth c =>
  peek c (notContainer expected) fun ch c =>
    if ch = '\x7b' then enter depth c (object fields false)
    else if ch = '[' then
      enter depth c fun _ c => unfit (.wrongKind (.array []) expected) c.afterBracket
    else c.fail .expectedValue

/-- A record as an object with its fields by name, none of them twice, or as an array in order. -/
def record (expected : String) (fields : List FieldScanner) : Scanner := fun depth c =>
  peek c (notContainer expected) fun ch c =>
    if ch = '\x7b' then enter depth c (object fields true)
    else if ch = '[' then
      enter depth c fun depth c => do
        let (ds, c) ← listed expected fields.length depth true [] 0 fields c
        return (.array ds, ← closeBracket c)
    else c.fail .expectedValue

end Scanner
end Stowage
