import Stowage.Command.Contact
import Stowage.Command.Outcome

/-! Running a command to its outcome. -/
namespace Stowage.Command

def flagEntry (access : GlobalAccess) (version name : String) : ResourceEntry where
  name
  version
  access := .ofMembers [("globalAccess",
    .ofMembers [("ref", .string access.reference), ("digest", .string access.digest)])]

def flagTransfer (o : RegistryOptions) (access : GlobalAccess) (version name tag : String) :
    Contacts (Except TransferFault TransferReport) :=
  Contact.transfer o (Destination.of o.address name tag).reference (flagEntry access version name)

/-- The outcome of a command that comes to an end by itself; one that follows a cluster does not. -/
def outcome? (format : Format) (fallback : Span) : Command → Option (Contacts Outcome)
  | .crd => some (pure .definitions)
  | .transfer o access version name tag => some do
    let result ← flagTransfer o access version name tag
    return .ofTransfer format (.of o.address name tag) result
  | .reconcile o key => some do
    let result ← Contact.pass o fallback key
    return .ofPass format key result
  | .run .. => none

end Stowage.Command
