import Stowage.Kinds.ComponentDescriptor
import Stowage.Kinds.Resource
import Stowage.Kinds.Snapshot

/-! The six calls that a pass makes of a store of cluster objects. An object that is not there is no
error for the calls that read. -/
namespace Stowage

inductive StoreError where
  | notFound (kind : String) (key : ObjectKey)
  | alreadyExists (kind : String) (key : ObjectKey)
  | backend (kind : String) (key : ObjectKey) (reason : String)
deriving DecidableEq, Repr

def StoreError.message : StoreError → String
  | notFound kind key => s!"{kind} {key.text} not found"
  | alreadyExists kind key => s!"{kind} {key.text} already exists"
  | backend kind key reason => s!"{kind} {key.text}: {reason}"

inductive Operation where
  | getResource | getDescriptor | getSnapshot | createSnapshot | updateSnapshot | patchStatus
deriving DecidableEq, Repr

inductive Call where
  | getResource (key : ObjectKey)
  | getDescriptor (key : ObjectKey)
  | getSnapshot (key : ObjectKey)
  /-- Namespace and name come from the metadata of the snapshot. -/
  | createSnapshot (snapshot : Snapshot)
  | updateSnapshot (key : ObjectKey) (spec : SnapshotSpec)
  /-- A merge patch for the status of a resource. -/
  | patchStatus (key : ObjectKey) (patch : Document)

namespace Call

def Result : Call → Type
  | getResource _ => Option Resource
  | getDescriptor _ => Option ComponentDescriptor
  | getSnapshot _ => Option Snapshot
  | createSnapshot _ => Snapshot
  | updateSnapshot .. => Snapshot
  | patchStatus .. => Unit

def operation : Call → Operation
  | getResource _ => .getResource
  | getDescriptor _ => .getDescriptor
  | getSnapshot _ => .getSnapshot
  | createSnapshot _ => .createSnapshot
  | updateSnapshot .. => .updateSnapshot
  | patchStatus .. => .patchStatus

def key : Call → ObjectKey
  | getResource key | getDescriptor key | getSnapshot key => key
  | createSnapshot snapshot => snapshot.key
  | updateSnapshot key _ | patchStatus key _ => key

def kind : Call → String
  | getResource _ | patchStatus .. => Resource.kind
  | getDescriptor _ => ComponentDescriptor.kind
  | getSnapshot _ | createSnapshot _ | updateSnapshot .. => Snapshot.kind

abbrev Answer (c : Call) : Type := Except StoreError c.Result

end Call
end Stowage
