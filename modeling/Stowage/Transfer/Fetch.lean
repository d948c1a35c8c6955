import Stowage.Digest.Basic
import Stowage.Transfer.Fault

/-! Fetching a layer: one request, and a comparison of what comes with the digest that was asked for. -/
namespace Stowage

abbrev Transport (m : Type → Type) := Http.Request → m (Except TransportFault Http.Response)

/-- Puts the identity on every request before it goes on; one that cannot carry it goes nowhere. -/
def Identity.decorated {m : Type → Type} [Monad m] (i : Identity) (inner : Transport m) :
    Transport m := fun r =>
  match i.decorate r with
  | .ok r => inner r
  | .error e => pure (.error (.invalidHeader e))

namespace Layer

/-- Compares data with its digest; a digest of another algorithm is not looked at. -/
def verify (expected : String) (data : Bytes) : Except TransferFault Unit :=
  match Digest.of? (Digest.algorithm expected) data with
  | some actual => if actual = expected then .ok () else .error (.digestMismatch expected actual)
  | none => .ok ()

def accept (url : String) (remote : Remote) (response : Http.Response) :
    Except TransferFault Bytes := do
  if !response.isSuccess then .error (.status url response.status)
  else
    let data ← response.body.mapError (.body url)
    verify remote.digest data
    return data

def fetch {m : Type → Type} [Monad m] (transport : Transport m) (remote : Remote)
    (scheme : Scheme) : m (Except TransferFault Bytes) :=
  let url := remote.blobUrl scheme
  match Url.read url with
  | .error e => pure (.error (.reference ⟨remote.canonical, e.message⟩))
  | .ok parsed => do
    match ← transport { url := parsed } with
    | .error e => return .error (.transport e)
    | .ok response => return accept url remote response

end Layer
end Stowage
