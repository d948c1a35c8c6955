import Stowage.Text.Split
import Stowage.Text.Word

/-! The parts of the name of an image: components of a path, domain names, tags and digests. -/
namespace Stowage.Reference

def isLower (c : Char) : Bool := ('a' ≤ c && c ≤ 'z') || c.isDigit

inductive Last where
  | start | plain | dot | underscore | underscores | dash
deriving DecidableEq, Repr

def Last.next? (last : Last) (c : Char) : Option Last :=
  if isLower c then some plain
  else if c = '.' then if last = plain then some dot else none
  else if c = '_' then
    if last = plain then some underscore
    else if last = underscore then some underscores
    else none
  else if c = '-' then if last = plain ∨ last = dash then some dash else none
  else none

def componentRest (last : Last) : List Char → Bool
  | [] => last = .plain
  | c :: cs =>
    match last.next? c with
    | some last => componentRest last cs
    | none => false

/-- Lower-case letters and digits, with a dot, one or two underscores, or dashes between them. -/
def isComponent (cs : List Char) : Bool := componentRest .start cs

def isLabel (cs : List Char) : Bool :=
  cs.all (fun c => c.isAlphanum || c = '-') &&
    (cs.head?.any Char.isAlphanum) && (cs.getLast?.any Char.isAlphanum)

/-- Labels between dots, with a port or without. -/
def isDomain (cs : List Char) : Bool :=
  let (name, port) := Text.cutAt ':' cs
  (Text.splitOn '.' name).all isLabel &&
    (match port with
      | none => true
      | some ds => !ds.isEmpty && ds.all Char.isDigit)

/-- Components between slashes; a domain may take the place of the first of several. -/
def isName (cs : List Char) : Bool :=
  match Text.splitOn '/' cs with
  | [] => false
  | [only] => isComponent only
  | first :: rest => (isComponent first || isDomain first) && rest.all isComponent

def isTagChar (c : Char) : Bool := Text.isWord c || c = '.' || c = '-'

/-- At most 128 characters, the first of them one of a word. -/
def isTag (cs : List Char) : Bool :=
  match cs with
  | [] => false
  | c :: rest => Text.isWord c && rest.all isTagChar && rest.length ≤ 127

def algorithmRest (started : Bool) : List Char → Bool
  | [] => started
  | c :: cs =>
    if c.isAlpha then algorithmRest true cs
    else if started && c.isDigit then algorithmRest true cs
    else started && "-_+.".toList.contains c && algorithmRest false cs

def isHexDigit (c : Char) : Bool := c.isDigit || ('a' ≤ c && c ≤ 'f') || ('A' ≤ c && c ≤ 'F')

/-- An algorithm, a colon, and at least 32 hexadecimal digits. -/
def isDigest (cs : List Char) : Bool :=
  match Text.cutAt ':' cs with
  | (algorithm, some hash) => algorithmRest false algorithm && hash.all isHexDigit && 32 ≤ hash.length
  | _ => false

end Stowage.Reference
