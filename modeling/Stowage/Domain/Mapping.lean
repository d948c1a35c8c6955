import Stowage.Domain.MappingTable
import Stowage.Text.Packed

/-! What characters stand for in domain names: letters in lower case, ligatures their letters, wide forms
the plain ones. Some are left out, and some may not stand there. -/
namespace Stowage.Domain

def mapped : Text.Packed := .ofLines mappedRows

def disallowed : Text.Packed := .ofLines disallowedRows

/-- What a character is written as. -/
def map? (c : Char) : Option (List Char) :=
  if c.toNat < 0x80 then some [c.toLower]
  else
    match mapped.find? c with
    | some r => some (r.values.map fun n => Char.ofNat (n + (c.toNat - r.first)))
    | none => if disallowed.contains c then none else some [c]

def isValid (c : Char) : Bool := map? c = some [c]

end Stowage.Domain
