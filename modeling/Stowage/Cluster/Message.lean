import Stowage.Document.Decoding
import Stowage.Http.Status
import Stowage.Text.Place
import Stowage.Text.Split

/-! What is sent to the server of a cluster, and what comes back. -/
namespace Stowage.Cluster

structure Request where
  method : String
  /-- Path and query. -/
  target : String
  contentType : Option String := none
  body : Option Document := none

inductive Reply where
  | failed (reason : String)
  | response (status : Nat) (body : String)
deriving DecidableEq, Repr

/-- Why there is no answer to a call. -/
inductive Fault where
  | noName
  | badTarget (reason : String)
  | unreachable (reason : String)
  | refused (status message reason : String) (code : Nat)
  | unreadable (reason : String)
deriving DecidableEq, Repr

def Fault.message : Fault → String
  | noName =>
    "Failed to build request: failed to validate request: A non-empty name is required"
  | badTarget reason => s!"Failed to build request: failed to build request: {reason}"
  | unreachable reason => s!"ServiceError: {reason}"
  | refused status message reason code =>
    s!"ApiError: {message}: {reason} (ErrorResponse \x7b status: {Text.quoted status}, " ++
      s!"message: {Text.quoted message}, reason: {Text.quoted reason}, code: {code} \x7d)"
  | unreadable reason => s!"Error deserializing response: {reason}"

/-- Characters that may stand in a path as they are. -/
def isPathChar (c : Char) : Bool :=
  0x20 < c.toNat && c.toNat ≠ 0x7f && c ≠ '<' && c ≠ '>' && c ≠ '`'

def isQueryChar (c : Char) : Bool :=
  0x20 < c.toNat && c.toNat ≠ 0x7f && c ≠ '"' && c ≠ '<' && c ≠ '>'

/-- A target is sent without its fragment. -/
def readTarget (text : String) : Except Fault String :=
  if 65534 < text.utf8ByteSize then .error (.badTarget "uri too long")
  else
    let sent := (Text.cut (· = '#') text.toList).1
    let (path, query) := Text.cut (· = '?') sent
    if path.all isPathChar && query.all isQueryChar then .ok (String.ofList sent)
    else .error (.badTarget "invalid uri character")

def code : Decoder Nat :=
  .scalar "u16" fun
    | .number (.natural n) =>
      if n < UInt16.size then .ok n else .error (.outOfRange (.natural n) "u16")
    | d => Decoder.wrong d "u16"

def refusal : Decoder Fault :=
  .record "struct ErrorResponse" (.refused
    <$> .required "status" .text
    <*> .defaulted "message" .text ""
    <*> .defaulted "reason" .text ""
    <*> .required "code" code)

/-- Reads the text of a response; faults tell their place in it. -/
def readBody {α : Type} (decoder : Decoder α) (text : String) : Except Fault α :=
  (decoder.readText text).mapError fun failure =>
    .unreadable (failure.message ++ (Text.Place.of text failure.offset).text)

/-- A response that is no failure holds what was asked for; a failure that says nothing readable is
told by its code. -/
def accept {α : Type} (decoder : Decoder α) : Reply → Except Fault α
  | .failed reason => .error (.unreachable reason)
  | .response status text =>
    if 400 ≤ status ∧ status ≤ 599 then
      match readBody refusal text with
      | .ok fault => .error fault
      | .error _ =>
        .error (.refused (Http.statusText status) (Text.quoted text)
          "Failed to parse error data" status)
    else readBody decoder text

end Stowage.Cluster
