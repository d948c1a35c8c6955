import Stowage.Document.Scanner

/-! Typed values out of documents. A record is an object with its fields by name, or an array of its
fields in order. Of several faults of a document one is reported: a bad part before a missing one, and
among bad parts the first. -/
namespace Stowage

/-- Two ways to a value: `scan` finds in a text what `read` makes the value of, and refuses what `read`
would refuse. -/
structure Decoder (α : Type) where
  scan : Scanner
  read : Document → Except Misfit α

namespace Decoder

def wrong {α : Type} (found : Document) (expected : String) : Except Misfit α :=
  .error (.wrongKind found expected)

def scalar {α : Type} (expected : String) (read : Document → Except Misfit α) : Decoder α :=
  ⟨.scalar expected fun d => (fun _ => ()) <$> read d, read⟩

def any : Decoder Document := ⟨.any, .ok⟩

def text : Decoder String :=
  scalar "a string" fun
    | .string s => .ok s
    | d => wrong d "a string"

def bool : Decoder Bool :=
  scalar "a boolean" fun
    | .bool b => .ok b
    | d => wrong d "a boolean"

def int64 : Decoder Int64 :=
  scalar "i64" fun
    | .number n =>
      match n with
      | .natural k => if k < UInt64.size / 2 then .ok (.ofNat k) else .error (.outOfRange n "i64")
      | .negative k =>
        if k < UInt64.size / 2 then .ok (.ofInt (.negSucc k)) else .error (.outOfRange n "i64")
      | .floating .. => wrong (.number n) "i64"
    | d => wrong d "i64"

/-- A text of which a reader makes more. -/
def textAs {α : Type} (expected : String) (read : String → Except String α) : Decoder α :=
  scalar expected fun
    | .string s => (read s).mapError .unreadable
    | d => wrong d expected

def orNull {α : Type} (decoder : Decoder α) : Decoder (Option α) where
  scan := .orNull decoder.scan
  read
    | .null => .ok none
    | d => some <$> decoder.read d

def list {α : Type} (decoder : Decoder α) : Decoder (List α) where
  scan := .list decoder.scan
  read
    | .array ds => ds.mapM decoder.read
    | d => wrong d "a sequence"

def table {α : Type} (decoder : Decoder α) : Decoder (List (String × α)) where
  scan := .table decoder.scan
  read
    | .object ms => ms.mapM fun (k, d) => (k, ·) <$> decoder.read d
    | d => wrong d "a map"

end Decoder

/-- A record taken apart. Listed parts stand under the declared names in order. -/
inductive Parts where
  | named (members : List (String × Document))
  | listed (record : String) (names : List String) (items : List Document)

namespace Parts

/-- The part under a name, and its position from `index` on. -/
def locate (name : String) : List (String × Document) → Nat → Option (Nat × Document)
  | [], _ => none
  | (k, d) :: rest, index => if k = name then some (index, d) else locate name rest (index + 1)

def find? (name : String) : Parts → Option (Nat × Document)
  | named ms => locate name ms 0
  | listed _ names items => locate name (names.zip items) 0

/-- What is wrong when a field that must be there is not. -/
def lacks (name : String) : Parts → Misfit
  | named _ => .missingField name
  | listed record names _ => .tooFew (names.idxOf name) record names.length

end Parts

/-- A misfit of a record, with what decides which of two is reported. -/
inductive Defect where
  | bad (position : Nat) (misfit : Misfit)
  | absent (misfit : Misfit)

namespace Defect

def misfit : Defect → Misfit
  | bad _ m | absent m => m

def first : Defect → Defect → Defect
  | bad i a, bad j b => if j < i then bad j b else bad i a
  | absent _, bad j b => bad j b
  | a, absent _ => a

end Defect

/-- Reads some fields of a record: how they stand in a text, in order, and what to make of its parts. -/
structure Fields (α : Type) where
  scanners : List FieldScanner
  read : Parts → Except Defect α

namespace Fields

instance : Functor Fields where
  map f fs := ⟨fs.scanners, fun parts => f <$> fs.read parts⟩

instance : Applicative Fields where
  pure a := ⟨[], fun _ => .ok a⟩
  seq ff fs :=
    let fs := fs ()
    ⟨ff.scanners ++ fs.scanners, fun parts =>
      match ff.read parts, fs.read parts with
      | .ok f, .ok a => .ok (f a)
      | .ok _, .error d => .error d
      | .error d, .ok _ => .error d
      | .error d, .error e => .error (d.first e)⟩

def field {α : Type} (name : String) (decoder : Decoder α) (absence : Absence)
    (absent : Parts → Except Misfit α) : Fields α where
  scanners := [⟨name, absence, decoder.scan⟩]
  read parts :=
    match parts.find? name with
    | none => (absent parts).mapError .absent
    | some (position, d) => (decoder.read d).mapError (.bad position)

def required {α : Type} (name : String) (decoder : Decoder α) : Fields α :=
  field name decoder .required fun parts => .error (parts.lacks name)

def defaulted {α : Type} (name : String) (decoder : Decoder α) (value : α) : Fields α :=
  field name decoder .defaulted fun _ => .ok value

def optional {α : Type} (name : String) (decoder : Decoder α) : Fields (Option α) :=
  defaulted name decoder.orNull none

/-- A field that an object may leave out and an array may not. -/
def nullable {α : Type} (name : String) (decoder : Decoder α) : Fields (Option α) :=
  field name decoder.orNull .nullable fun
    | .named _ => .ok none
    | parts => .error (parts.lacks name)

def names {α : Type} (fields : Fields α) : List String := fields.scanners.map (·.name)

end Fields

namespace Decoder

def members {α : Type} (expected : String) (fields : Fields α) : Decoder α where
  scan := .members expected fields.scanners
  read
    | .object ms => (fields.read (.named ms)).mapError Defect.misfit
    | d => wrong d expected

/-- A record as an object or as an array. -/
def record {α : Type} (expected : String) (fields : Fields α) : Decoder α where
  scan := .record expected fields.scanners
  read
    | .array ds => do
      let value ← (fields.read (.listed expected fields.names ds)).mapError Defect.misfit
      if fields.names.length < ds.length then .error (.tooMany ds.length) else return value
    | d => (members expected fields).read d

def readText {α : Type} (decoder : Decoder α) (text : String) : Except Reader.Failure α := do
  let d ← Reader.whole (decoder.scan Reader.depthLimit) text
  (decoder.read d).mapError fun misfit => ⟨.misfit misfit, text.utf8ByteSize⟩

end Decoder
end Stowage
