import Stowage.Cluster.Store
import Stowage.Command.Basic
import Stowage.Pass
import Stowage.Push

/-! What transfers and passes ask for, put down to what only the world can tell: the time, and the
answers to messages. -/
namespace Stowage

inductive Contact where
  | now
  /-- A request to a registry, which may go through a proxy. -/
  | exchange (proxy : Option Proxy) (request : Http.Request)
  | cluster (request : Cluster.Request)

def Contact.Answer : Contact → Type
  | now => Moment
  | exchange .. => Except TransportFault Http.Response
  | cluster _ => Cluster.Reply

abbrev Contacts := Dialogue Contact Contact.Answer

namespace Contact

def ask (c : Contact) : Contacts c.Answer := .question c

def transport (proxy : Option Proxy) : Transport Contacts := fun r => (exchange proxy r).ask

/-- Pulls go through the local registry as a proxy; pushes go to it directly. -/
def ofErrand (o : RegistryOptions) : (e : Errand) → Contacts e.Answer
  | .connect address => pure <|
    match Proxy.read address with
    | .ok _ => .ok ()
    | .error cause => .error (.proxy address cause)
  | .execute r => transport (Proxy.read o.address).toOption r
  | .now => now.ask
  | .publish target image => Push.run (transport none) o.pushScheme target image
  | .record _ => pure ()

def transfer (o : RegistryOptions) (destination : String) (entry : ResourceEntry) :
    Contacts (Except TransferFault TransferReport) :=
  (Transfer.run o.address o.pullScheme destination entry).interpret (ofErrand o)

/-- A call to the cluster; one that makes no request reaches nobody. -/
def ofCall (c : Call) : Contacts c.Answer :=
  match Cluster.request c with
  | .error fault => pure (.error (Cluster.storeError c fault))
  | .ok r => do
    let reply : Cluster.Reply ← (cluster r).ask
    return Cluster.interpret c reply

def ofDemand (o : RegistryOptions) : (q : Demand) → Contacts q.Answer
  | .call c => ofCall c
  | .transfer destination entry => transfer o destination entry
  | .record _ => pure ()

def pass (o : RegistryOptions) (fallback : Span) (key : ObjectKey) :
    Contacts (Except Failure Requeue) :=
  (Pass.run o.address fallback key).interpret (ofDemand o)

end Contact
end Stowage
