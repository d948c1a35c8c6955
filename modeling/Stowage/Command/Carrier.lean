import Stowage.Command.Contact
import Stowage.Dispatcher

/-! Contacts and changes as documents, for whoever carries the messages of the program: a contact goes
out as one document, and its answer comes back as another. -/
namespace Stowage

def Proxy.text (p : Proxy) : String :=
  p.scheme ++ "://" ++ p.host.text ++
    match p.port with
    | some n => ":" ++ toString n
    | none => ""

namespace Contact

def header (h : String × String) : Document := .array [.string h.1, .string h.2]

def orNull (value : Option String) : Document :=
  match value with
  | some text => .string text
  | none => .null

def document : Contact → Document
  | now => .string "now"
  | exchange proxy r => .ofMembers [("exchange", .ofMembers [
      ("proxy", orNull (proxy.map Proxy.text)), ("method", .string r.method),
      ("url", .string r.url.text), ("headers", .array (r.headers.map header)),
      ("body", .string (Bytes.hex r.body))])]
  | cluster r => .ofMembers [("cluster", .ofMembers [
      ("method", .string r.method), ("target", .string r.target),
      ("contentType", orNull r.contentType), ("body", r.body.getD .null)])]

def hexText : Decoder Bytes :=
  .textAs "hexadecimal digits" fun s =>
    match Bytes.ofHex? s.toList with
    | some bytes => .ok bytes
    | none => .error "not hexadecimal"

def pair : Decoder (String × String) :=
  .record "a header" (Prod.mk <$> .required "name" .text <*> .required "value" .text)

def response : Decoder Http.Response :=
  .members "a response" ((fun status headers body => ⟨status, headers, .ok body⟩)
    <$> .required "status" Cluster.code
    <*> .defaulted "headers" (.list pair) []
    <*> .defaulted "body" hexText [])

def reply : Decoder Cluster.Reply :=
  .members "a reply" (.response <$> .required "status" Cluster.code <*> .defaulted "body" .text "")

def refusal : Decoder String := .members "a failure" (.required "error" .text)

def failure (d : Document) (otherwise : Misfit) : String :=
  match refusal.read d with
  | .ok reason => reason
  | .error _ => otherwise.message

/-- The answer that a document holds; one that holds none is no answer to the contact. -/
def readAnswer : (c : Contact) → Document → c.Answer
  | now, d =>
    match Moment.decoder.read d with
    | .ok time => time
    | .error _ => ⟨0, 0⟩
  | exchange _ r, d =>
    match response.read d with
    | .ok answer => .ok answer
    | .error fault => .error (.request r.url.text (failure d fault))
  | cluster _, d =>
    match reply.read d with
    | .ok answer => answer
    | .error fault => .failed (failure d fault)

end Contact

/-- A change is told by the object that changed, and whether it is gone. -/
def Change.read (d : Document) : Except Misfit Change :=
  match d.get? "resource", d.get? "gone", d.get? "snapshot" with
  | some r, _, _ => .resource <$> Resource.decoder.read r
  | _, some key, _ => .resourceGone <$> ObjectKey.decoder.read key
  | _, _, some p => .snapshot <$> Snapshot.decoder.read p
  | _, _, _ => Decoder.wrong d "a change"

end Stowage
