/-! What is counted and measured while the program runs. -/
namespace Stowage

inductive Meter where
  | passes | passErrors | passLatency
  | descriptorsPending
  | snapshotsCreated | snapshotsUpdated
  | transfers | transferErrors | transferLatency
  | transferBytes (count : Nat)
deriving DecidableEq, Repr

namespace Meter

def name : Meter → String
  | passes => "ferry_reconcile_total"
  | passErrors => "ferry_reconcile_errors_total"
  | passLatency => "ferry_reconcile_latency_ms"
  | descriptorsPending => "ferry_descriptor_pending_total"
  | snapshotsCreated | snapshotsUpdated => "ferry_snapshot_writes_total"
  | transfers => "ferry_transfer_total"
  | transferErrors => "ferry_transfer_errors_total"
  | transferLatency => "ferry_transfer_latency_ms"
  | transferBytes _ => "ferry_transfer_bytes"

def labels : Meter → List (String × String)
  | snapshotsCreated => [("op", "create")]
  | snapshotsUpdated => [("op", "update")]
  | _ => []

end Meter
end Stowage
