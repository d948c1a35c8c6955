import Stowage.Access
import Stowage.Gzip.Basic
import Stowage.Proxy
import Stowage.Remote

/-! Why a transfer fails, in the order of its stages. -/
namespace Stowage

inductive TransportFault where
  | proxy (address : String) (cause : Proxy.Fault)
  | invalidHeader (header : InvalidHeader)
  | request (url reason : String)
deriving DecidableEq, Repr

def TransportFault.message : TransportFault → String
  | proxy address cause => s!"invalid proxy address {address}: {cause.message}"
  | invalidHeader header => header.message
  | request url reason => s!"request to {url} failed: {reason}"

def TransportFault.causes : TransportFault → List String
  | proxy _ cause => cause.causes
  | invalidHeader _ => []
  | request _ reason => [reason]

inductive TransferFault where
  | access (cause : Access.Malformed)
  | reference (cause : InvalidReference)
  | transport (cause : TransportFault)
  | status (url : String) (code : Nat)
  | body (url reason : String)
  | digestMismatch (expected actual : String)
  | assemble (cause : Gzip.Fault)
  | publish (reference reason : String)
deriving DecidableEq, Repr

def TransferFault.message : TransferFault → String
  | access cause => s!"malformed access document: {cause.message}"
  | reference cause => cause.message
  | transport cause => cause.message
  | status url code => s!"fetching {url}: unexpected status {code}"
  | body url reason =>
    s!"reading layer body from {url}: request or response body error: {reason}"
  | digestMismatch expected actual =>
    s!"layer digest mismatch: expected {expected}, got {actual}"
  | assemble cause => s!"assembling snapshot image: decompressing layer: {cause.message}"
  | publish target reason => s!"pushing {target}: {reason}"

def TransferFault.causes : TransferFault → List String
  | access cause => [cause.message]
  | transport cause => cause.causes
  | body _ reason => ["request or response body error: " ++ reason, reason]
  | reference _ | status .. | digestMismatch .. | assemble _ | publish .. => []

end Stowage
