import Stowage.Dialogue
import Stowage.Requeue
import Stowage.Store.Call
import Stowage.Transfer.Basic

/-! A pass over one resource: its matching entries are transferred in order, the snapshot is written
after each of them, and at the end the status says what was done. The first failure ends the pass. -/
namespace Stowage

inductive Demand where
  | call (c : Call)
  | transfer (destination : String) (entry : ResourceEntry)
  | record (meter : Meter)

def Demand.Answer : Demand → Type
  | call c => c.Answer
  | transfer .. => Except TransferFault TransferReport
  | record _ => Unit

abbrev Demands := Dialogue Demand Demand.Answer

inductive PassError where
  | loadResource (key : ObjectKey) (source : StoreError)
  | loadDescriptor (key : ObjectKey) (source : StoreError)
  | transfer (entry version destination : String) (source : TransferFault)
  | snapshot (key : ObjectKey) (source : StoreError)
  | patchStatus (key : ObjectKey) (source : StoreError)
deriving DecidableEq, Repr

def PassError.message : PassError → String
  | loadResource key source => s!"loading resource {key.text}: {source.message}"
  | loadDescriptor key source => s!"loading component descriptor {key.text}: {source.message}"
  | transfer entry version destination source =>
    s!"transferring {entry}:{version} to {destination}: {source.message}"
  | snapshot key source => s!"writing snapshot {key.text}: {source.message}"
  | patchStatus key source => s!"patching status of {key.text}: {source.message}"

/-- A failed pass, and when to try again. -/
structure Failure where
  error : PassError
  requeue : Requeue
deriving DecidableEq, Repr

namespace Pass

def call (c : Call) : Demands c.Answer := .question (Demand.call c)

def transfer (destination : String) (entry : ResourceEntry) :
    Demands (Except TransferFault TransferReport) := .question (Demand.transfer destination entry)

def record (meter : Meter) : Demands Unit := .question (Demand.record meter)

def newSnapshot (r : Resource) (spec : SnapshotSpec) : Snapshot where
  metadata :=
    { name := some r.snapshotKey.name
      «namespace» := some r.snapshotKey.namespace
      ownerReferences := r.ownerReference?.map fun owner => [owner] }
  spec

/-- Creates the snapshot, or gives it a new reference if it has another one. -/
def writeSnapshot (r : Resource) (d : Destination) : Demands (Except PassError Unit) := do
  let key := r.snapshotKey
  let spec : SnapshotSpec := ⟨d.snapshotRef⟩
  match ← call (.getSnapshot key) with
  | .error e => return .error (.snapshot key e)
  | .ok none =>
    match ← call (.createSnapshot (newSnapshot r spec)) with
    | .error e => return .error (.snapshot key e)
    | .ok _ => do
      record .snapshotsCreated
      return .ok ()
  | .ok (some current) =>
    if current.spec = spec then return .ok ()
    else
      match ← call (.updateSnapshot key spec) with
      | .error e => return .error (.snapshot key e)
      | .ok _ => do
        record .snapshotsUpdated
        return .ok ()

/-- Transfers entries and writes the snapshot after each; the status tells the last version. -/
def applyEntries (r : Resource) (d : Destination) (status : ResourceStatus) :
    List ResourceEntry → Demands (Except PassError ResourceStatus)
  | [] => return .ok status
  | entry :: rest => do
    match ← transfer d.reference entry with
    | .error e => return .error (.transfer entry.name entry.version d.reference e)
    | .ok _ =>
      match ← writeSnapshot r d with
      | .error e => return .error e
      | .ok () => applyEntries r d { status with lastAppliedVersion := some entry.version } rest

/-- The status of a pass that went through observes the generation, if there is one. -/
def observed (r : Resource) (status : ResourceStatus) : ResourceStatus :=
  match r.metadata.generation with
  | some generation => { status with observedGeneration := some generation }
  | none => status

def patchStatus (key : ObjectKey) (before after : ResourceStatus) :
    Demands (Except PassError Unit) := do
  match before.patch? after with
  | none => return .ok ()
  | some patch =>
    match ← call (.patchStatus key patch) with
    | .error e => return .error (.patchStatus key e)
    | .ok () => return .ok ()

/-- What a pass does once the resource and the descriptor of its component are loaded. -/
def settle (registry : String) (key : ObjectKey) (r : Resource) (c : ComponentDescriptor) :
    Demands (Except PassError Unit) := do
  let before := r.status.getD {}
  let d := r.destination registry
  match ← applyEntries r d before (c.entriesNamed r.spec.resource.name) with
  | .error e => return .error e
  | .ok status => patchStatus key before (observed r status)

/-- Once the resource is loaded, every end of the pass asks for the next one after its interval. -/
def converge (registry : String) (fallback : Span) (key : ObjectKey) :
    Demands (Except Failure Requeue) := do
  match ← call (.getResource key) with
  | .error e => return .error ⟨.loadResource key e, .never⟩
  | .ok none => return .ok .never
  | .ok (some r) =>
    let requeue := Requeue.every (r.interval fallback)
    match ← call (.getDescriptor r.descriptorKey) with
    | .error e => return .error ⟨.loadDescriptor r.descriptorKey e, requeue⟩
    | .ok none => do
      record .descriptorsPending
      return .ok requeue
    | .ok (some c) =>
      match ← settle registry key r c with
      | .error e => return .error ⟨e, requeue⟩
      | .ok () => return .ok requeue

def run (registry : String) (fallback : Span) (key : ObjectKey) :
    Demands (Except Failure Requeue) := do
  record .passes
  let result ← converge registry fallback key
  record .passLatency
  match result with
  | .ok _ => pure ()
  | .error _ => record .passErrors
  return result

end Pass
end Stowage
