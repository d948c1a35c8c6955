import Stowage.Domain.Direction
import Stowage.Domain.Joining
import Stowage.Domain.Mapping
import Stowage.Domain.Punycode
import Stowage.Text.Split

/-! Domain names as they are sent: in lower case and in ASCII, with a mark before each label that stands
for one with other characters. -/
namespace Stowage.Domain

def isForbidden (c : Char) : Bool :=
  c.toNat ≤ 0x20 || c.toNat = 0x7f || "#/:<>?@[\\]^|%".toList.contains c

def isAscii (label : List Char) : Bool := label.all (·.toNat < 0x80)

/-- What stands before a label that is written in ASCII for another one. -/
def encodedMark : List Char := "xn--".toList

/-- How long an encoded label may be, and one that is to be encoded. -/
def encodedLimit : Nat := 2000
def plainLimit : Nat := 1000

/-- The label that an encoded one stands for: in composed form, of characters that are valid. -/
def decodeLabel? (cs : List Char) : Option (List Char) := do
  if cs.isEmpty || cs.getLast? = some '-' || encodedLimit < cs.length || !isAscii cs then none
  else
    let label ← Punycode.decode? cs
    if label.all isValid && !label.contains '.' && Text.composed label = label then some label else none

/-- The label that is meant, with all characters it has. -/
def plainLabel? (label : List Char) : Option (List Char) :=
  if encodedMark.isPrefixOf label then decodeLabel? (label.drop encodedMark.length) else some label

def isSound (label : List Char) : Bool :=
  !label.any isForbidden && !label.head?.any Text.isMark && joinersFit [] label &&
    (isAscii label || label.length ≤ plainLimit)

def encodeLabel (label : List Char) : List Char :=
  if isAscii label then label else encodedMark ++ Punycode.encode label

/-- A name in ASCII of which no label stands for another one. -/
def isPlain (name : List Char) : Bool :=
  isAscii name && (Text.splitOn '.' name).all fun label => !encodedMark.isPrefixOf label

def encode? (name : List Char) : Option (List Char) := do
  let mapped ← name.mapM map?
  let labels ← (Text.splitOn '.' (Text.composed mapped.flatten)).mapM plainLabel?
  let turned := labels.any (·.any fun c => (Direction.of c).turns)
  if labels.all isSound && (!turned || labels.all keepsDirection) then
    some (['.'].intercalate (labels.map encodeLabel))
  else none

def toAscii? (name : List Char) : Option (List Char) :=
  let lowered := name.map Char.toLower
  if isPlain lowered then if lowered.any isForbidden then none else some lowered
  else encode? name

end Stowage.Domain
