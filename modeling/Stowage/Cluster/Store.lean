import Stowage.Cluster.Message
import Stowage.Store.Call

/-! The calls of a pass as requests to the server of a cluster: one request for a call. -/
namespace Stowage.Cluster

def collection (plural ns : String) : String :=
  s!"/apis/{apiVersion}/namespaces/{ns}/{plural}"

def plural : Call → String
  | .getResource _ | .patchStatus .. => ClusterObject.plural Resource
  | .getDescriptor _ => ClusterObject.plural ComponentDescriptor
  | .getSnapshot _ | .createSnapshot _ | .updateSnapshot .. => ClusterObject.plural Snapshot

def mergePatch (target : String) (patch : Document) : Request where
  method := "PATCH"
  target
  contentType := some "application/merge-patch+json"
  body := some patch

/-- The request of a call, with a target that is not yet looked at. -/
def draft (c : Call) : Request :=
  let path := collection (plural c) c.key.namespace
  let item := path ++ "/" ++ c.key.name
  match c with
  | .getResource _ | .getDescriptor _ | .getSnapshot _ => { method := "GET", target := item }
  | .createSnapshot p =>
    { method := "POST", target := path ++ "?"
      contentType := some "application/json", body := some p.document }
  | .updateSnapshot _ spec =>
    mergePatch (item ++ "?") (.ofMembers [("spec", spec.document)])
  | .patchStatus _ patch => mergePatch (item ++ "/status?") patch

/-- An object is asked for by a name; a new one is told by the request itself. -/
def needsName : Call → Bool
  | .createSnapshot _ => false
  | _ => true

def request (c : Call) : Except Fault Request := do
  if needsName c && c.key.name.isEmpty then .error .noName
  else
    let r := draft c
    return { r with target := ← readTarget r.target }

def storeError (c : Call) (fault : Fault) : StoreError :=
  match fault with
  | .refused _ _ _ 404 => .notFound c.kind c.key
  | .refused _ _ _ 409 => .alreadyExists c.kind c.key
  | fault => .backend c.kind c.key fault.message

/-- An object that the server says is not found is no fault for a call that reads. -/
def ifFound {α : Type} (result : Except Fault α) : Except Fault (Option α) :=
  match result with
  | .ok a => .ok (some a)
  | .error (.refused _ _ "NotFound" _) => .ok none
  | .error e => .error e

def accepted : (c : Call) → Reply → Except Fault c.Result
  | .getResource _, reply => ifFound (accept Resource.decoder reply)
  | .getDescriptor _, reply => ifFound (accept ComponentDescriptor.decoder reply)
  | .getSnapshot _, reply => ifFound (accept Snapshot.decoder reply)
  | .createSnapshot _, reply => accept Snapshot.decoder reply
  | .updateSnapshot .., reply => accept Snapshot.decoder reply
  | .patchStatus .., reply => (fun _ => ()) <$> accept Resource.decoder reply

def interpret (c : Call) (reply : Reply) : c.Answer :=
  (accepted c reply).mapError (storeError c)

/-- Answers a call by a server; a request that cannot be made sends nothing. -/
def answer {σ : Type} (serve : Request → σ → Reply × σ) (c : Call) (s : σ) : c.Answer × σ :=
  match request c with
  | .error fault => (.error (storeError c fault), s)
  | .ok r =>
    let (reply, s) := serve r s
    (interpret c reply, s)

end Stowage.Cluster
