import Stowage.Http.Status
import Stowage.Manifest
import Stowage.Transfer.Fetch

/-! Pushing an image to a registry: the layer and the configuration are uploaded as blobs, then the
manifest that names them. Each response says where the next request goes.

The registry takes pushes without authorisation. A client that is challenged for a bearer token would ask
the token service that the challenge names, and send the token along from then on; here no token is asked
for and no request carries one, so of registries that insist on tokens nothing is said. -/
namespace Stowage.Push

inductive Fault where
  | badUrl (cause : UrlFault)
  | unanswered (url : String)
  | refused (url : String) (status : Nat) (body : String)
  /-- A success, but not the one that is due. -/
  | unexpected (due status : Nat)
  | noLocation
  | noData
deriving DecidableEq, Repr

def Fault.message : Fault → String
  | badUrl _ => "builder error"
  | unanswered url => s!"error sending request for url ({url})"
  | refused url status body => s!"Server error: url {url}, code: {status}, message: {body}"
  | unexpected due status =>
    "OCI distribution spec violation: Expected HTTP Status " ++
      s!"{Http.statusText due}, got {Http.statusText status} instead"
  | noLocation => "Registry did not return a location header"
  | noData => "cannot push a blob without data"

/-- Registry and repository that the image goes to. -/
structure Target where
  /-- Scheme and host. -/
  base : String
  repository : String
  /-- Tag or digest of the manifest. -/
  name : String
deriving DecidableEq, Repr

namespace Target

def of (scheme : Scheme) (r : Reference) : Target where
  base := scheme.text ++ "://" ++ r.host
  repository := r.repository
  name := r.digest.getD (r.tag.getD "latest")

def root (t : Target) : String := t.base ++ "/v2/"

def uploads (t : Target) : String := t.root ++ t.repository ++ "/blobs/uploads/"

def manifest (t : Target) (name : String) : String := t.root ++ t.repository ++ "/manifests/" ++ name

end Target

/-- Where a response points: to a path of the registry, or to anywhere. -/
def location (t : Target) (r : Http.Response) : Except Fault String :=
  match Http.Headers.first? "location" r.headers with
  | none => .error .noLocation
  | some place => .ok (if place.startsWith "/v2/" then t.base ++ place else place)

/-- The location in a response of the status that is due. -/
def accept (t : Target) (due : Nat) (url : Url) (r : Http.Response) : Except Fault String :=
  if r.status = due then location t r
  else if r.isSuccess then .error (.unexpected due r.status)
  else
    match r.body with
    | .ok body => .error (.refused url.text r.status (Bytes.text body))
    | .error _ => .error (.unanswered url.text)

variable {m : Type → Type} [Monad m]

abbrev Steps (m : Type → Type) := ExceptT Fault m

def readUrl (text : String) : Steps m Url :=
  match Url.read text with
  | .ok url => pure url
  | .error cause => throw (.badUrl cause)

/-- Sends a request, after a greeting. Only a challenge for a token would matter in the answer to the greeting,
and tokens are left out. -/
def send (transport : Transport m) (t : Target) (due : Nat) (r : Http.Request) : Steps m String := do
  let greeting ← readUrl t.root
  let _ ← ExceptT.lift (transport { url := greeting })
  match ← ExceptT.lift (transport r) with
  | .error _ => throw (.unanswered r.url.text)
  | .ok response =>
    match accept t due r.url response with
    | .ok place => return place
    | .error fault => throw fault

def octets : String × String := ("content-type", "application/octet-stream")

def noContent : String × String := ("content-length", "0")

def pieceSize : Nat := 4096 * 1024

/-- Sends pieces one after the other, each to where the response before it points. -/
def sendPieces (transport : Transport m) (t : Target) (place : String) (start : Nat) :
    List Bytes → Steps m String
  | [] => return place
  | piece :: rest => do
    let range := s!"{start}-{start + piece.length - 1}"
    let next ← send transport t 202 {
      method := "PATCH"
      url := ← readUrl place
      headers := [("content-range", range), ("content-length", toString piece.length), octets]
      body := piece }
    sendPieces transport t next (start + piece.length) rest

def uploadPieces (transport : Transport m) (t : Target) (data : Bytes) : Steps m String := do
  let place ← send transport t 202
    { method := "POST", url := ← readUrl t.uploads, headers := [noContent] }
  if data.isEmpty then throw .noData
  let place ← sendPieces transport t place 0 (Bytes.pieces pieceSize data)
  let url := (← readUrl place).addParameter "digest" (Digest.sha256Text data)
  send transport t 201 { method := "PUT", url, headers := [noContent] }

def uploadWhole (transport : Transport m) (t : Target) (data : Bytes) : Steps m String := do
  let place ← send transport t 202 { method := "POST", url := ← readUrl t.uploads }
  let url := (← readUrl place).addParameter "digest" (Digest.sha256Text data)
  if data.isEmpty then throw .noData
  send transport t 201 {
    method := "PUT"
    url
    headers := [("content-length", toString data.length), octets]
    body := data }

/-- A registry that answers pieces in a way of its own gets the blob as a whole. -/
def upload (transport : Transport m) (t : Target) (data : Bytes) : Steps m String :=
  tryCatch (uploadPieces transport t data) fun fault =>
    match fault with
    | .unexpected .. => uploadWhole transport t data
    | _ => throw fault

/-- Stores the manifest; a registry that does not say where has it under its digest. -/
def putManifest (transport : Transport m) (t : Target) (manifest : Manifest) : Steps m String := do
  let r : Http.Request := {
    method := "PUT"
    url := ← readUrl (t.manifest t.name)
    headers := [("content-type", Manifest.mediaType)]
    body := manifest.data }
  tryCatch (send transport t 201 r) fun fault =>
    match fault with
    | .noLocation => return t.manifest manifest.digest
    | _ => throw fault

def steps (transport : Transport m) (t : Target) (i : Image) : Steps m String := do
  let _ ← upload transport t i.layer.data
  let _ ← upload transport t i.configData
  putManifest transport t (.ofImage i)

def run (transport : Transport m) (scheme : Scheme) (target : Reference) (i : Image) :
    m (Except TransferFault String) :=
  (fun result => result.mapError fun fault => .publish target.text fault.message) <$>
    (steps transport (.of scheme target) i).run

end Stowage.Push
