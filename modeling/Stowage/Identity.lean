import Stowage.Http.Message
import Stowage.Text.Quoted

/-! Which artifact a request is for: up to five headers that go with it, so that a proxy can tell. -/
namespace Stowage

structure Identity where
  digest : Option String := none
  registry : Option String := none
  repository : Option String := none
  tag : Option String := none
  image : Option String := none
deriving DecidableEq, Repr

structure InvalidHeader where
  name : String
  value : String
deriving DecidableEq, Repr

def InvalidHeader.message (e : InvalidHeader) : String :=
  s!"invalid value for header {e.name}: {Text.quoted e.value}"

namespace Identity

/-- The fields, in the order in which they are set. -/
def keys : List String := ["digest", "registry", "repository", "tag", "image"]

def value? (i : Identity) (key : String) : Option String :=
  if key = "digest" then i.digest
  else if key = "registry" then i.registry
  else if key = "repository" then i.repository
  else if key = "tag" then i.tag
  else if key = "image" then i.image
  else none

def headers (i : Identity) : Http.Headers :=
  keys.filterMap fun key => (i.value? key).map fun value => ("x-" ++ key, value)

/-- Control characters cannot stand in a header, tabs apart. -/
def isHeaderChar (c : Char) : Bool := c = '\t' || (0x20 ≤ c.toNat && c.toNat ≠ 0x7f)

def isHeaderValue (value : String) : Bool := value.toList.all isHeaderChar

/-- Sets headers one after the other, up to the first that is invalid. -/
def setAll (hs : Http.Headers) : Http.Headers → Except InvalidHeader Http.Headers
  | [] => .ok hs
  | (name, value) :: rest =>
    if isHeaderValue value then setAll (hs.set name value) rest else .error ⟨name, value⟩

/-- Puts the identity on a request; fields that are not set change nothing. -/
def decorate (i : Identity) (r : Http.Request) : Except InvalidHeader Http.Request :=
  (fun headers => { r with headers }) <$> setAll r.headers i.headers

end Identity
end Stowage
