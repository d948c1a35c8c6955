import Stowage.Dialogue
import Stowage.Image
import Stowage.Kinds.ComponentDescriptor
import Stowage.Meter
import Stowage.Transfer.Fetch

/-! Transfers: a layer is fetched through the local registry as a proxy, wrapped in an image, and
published there. The network, the clock and the publisher are asked for; all else is decided here. -/
namespace Stowage

structure TransferReport where
  /-- The reference that was fetched, pinned by its digest. -/
  remote : String
  destination : String
  layerDigest : String
  bytes : Nat
  manifestUrl : String
deriving DecidableEq, Repr

def TransferReport.document (r : TransferReport) : Document :=
  .object [
    ("remote", .string r.remote),
    ("destination", .string r.destination),
    ("layer_digest", .string r.layerDigest),
    ("bytes", .nat r.bytes),
    ("manifest_url", .string r.manifestUrl)]

/-- What a transfer needs others to do. -/
inductive Errand where
  | connect (proxy : String)
  | execute (request : Http.Request)
  | now
  | publish (target : Reference) (image : Image)
  | record (meter : Meter)

abbrev Errand.Answer : Errand → Type
  | connect _ => Except TransportFault Unit
  | execute _ => Except TransportFault Http.Response
  | now => Moment
  | publish .. => Except TransferFault String
  | record _ => Unit

abbrev Errands := Dialogue Errand Errand.Answer

def Errand.ask (e : Errand) : Errands e.Answer := .question e

namespace Transfer

def send : Transport Errands := fun r => (Errand.execute r).ask

/-- What can be said of a transfer before anything is done. -/
structure Plan where
  remote : Remote
  target : Reference
deriving DecidableEq, Repr

def plan (destination : String) (entry : ResourceEntry) : Except TransferFault Plan := do
  let access ← (Access.read entry.access).mapError .access
  let remote ← (Remote.resolve access entry.version).mapError .reference
  let target ← (Reference.parse destination).mapError .reference
  return ⟨remote, target⟩

def deliver (destination : String) (p : Plan) (data : Bytes) :
    Errands (Except TransferFault TransferReport) := do
  let created : Moment ← Errand.now.ask
  match Image.ofLayer data p.remote.digest ⟨created, destination⟩ with
  | .error e => return .error (.assemble e)
  | .ok image =>
    let published : Except TransferFault String ← (Errand.publish p.target image).ask
    return published.map fun manifestUrl =>
      { remote := p.remote.canonical, destination, layerDigest := image.layer.digest
        bytes := data.length, manifestUrl }

/-- The stages of a transfer, up to the first that fails. -/
def stages (registry : String) (scheme : Scheme) (destination : String) (entry : ResourceEntry) :
    Errands (Except TransferFault TransferReport) :=
  match plan destination entry with
  | .error e => pure (.error e)
  | .ok p => do
    let connected : Except TransportFault Unit ← (Errand.connect registry).ask
    match connected with
    | .error e => return .error (.transport e)
    | .ok () =>
      match ← Layer.fetch (p.remote.identity.decorated send) p.remote scheme with
      | .error e => return .error e
      | .ok data => deliver destination p data

def record (m : Meter) : Errands Unit := (Errand.record m).ask

def run (registry : String) (scheme : Scheme) (destination : String) (entry : ResourceEntry) :
    Errands (Except TransferFault TransferReport) := do
  record .transfers
  let result ← stages registry scheme destination entry
  record .transferLatency
  match result with
  | .ok report => record (.transferBytes report.bytes)
  | .error _ => record .transferErrors
  return result

end Transfer
end Stowage
