import Stowage.Number.Decimal
import Stowage.Text.Blank
import Stowage.Url.Basic
import Stowage.Url.Path

/-! Reading URLs leniently, into one way of writing them: schemes and domains in lower case, no default
port, no dots in the path, and a percent sign for what a part cannot hold. -/
namespace Stowage.Url

def defaultPort (scheme : String) : Option Nat :=
  if scheme = "http" ∨ scheme = "ws" then some 80
  else if scheme = "https" ∨ scheme = "wss" then some 443
  else if scheme = "ftp" then some 21
  else none

def isFile (scheme : String) : Bool := scheme = "file"

/-- Schemes of which the parts are known. -/
def isSpecial (scheme : String) : Bool := (defaultPort scheme).isSome || isFile scheme

def queryEscapes (special : Bool) : String := if special then " \"#<>'" else " \"#<>"
def fragmentEscapes : String := " \"<>`"
def userinfoEscapes : String := " \"#<>?`\x7b\x7d/:;=@[\\]^|"

def isSlash (special : Bool) (c : Char) : Bool := c = '/' || (special && c = '\\')

def isEnd (special : Bool) (c : Char) : Bool := isSlash special c || c = '?' || c = '#'

/-- Query and fragment, each with its mark. -/
def readTail (special : Bool) (cs : List Char) : Option String × Option String :=
  let (query, fragment) := Text.cut (· = '#') cs
  (match query with
    | [] => none
    | _ :: q => some (Percent.encode (queryEscapes special) q),
   match fragment with
    | [] => none
    | _ :: f => some (Percent.encode fragmentEscapes f))

def build (scheme : String) (authority : Option Authority) (path : String) (tail : List Char) : Url :=
  let (query, fragment) := readTail (isSpecial scheme) tail
  { scheme, authority, path, query, fragment }

def cutPath (cs : List Char) : List Char × List Char := Text.cut (fun c => c = '?' || c = '#') cs

/-- Name and password, of which either may be empty. -/
def userinfoText (cs : List Char) : String :=
  let (name, password) := Text.cut (· = ':') cs
  let name := Percent.encode userinfoEscapes name
  let password := Percent.encode userinfoEscapes (password.drop 1)
  let text := if password.isEmpty then name else name ++ ":" ++ password
  if text.isEmpty then "" else text ++ "@"

/-- Name and password stand before the last `@`, which may not be all that stands there. -/
def readUserinfo (special : Bool) (cs : List Char) : Except UrlFault (String × List Char) :=
  let authority := cs.takeWhile fun c => !isEnd special c
  match authority.reverse.dropWhile (· ≠ '@') with
  | [] => .ok ("", cs)
  | _ :: before =>
    let rest := cs.drop (before.length + 1)
    if before.isEmpty && rest.head?.any (isEnd special) then .error .emptyHost
    else .ok (userinfoText before.reverse, rest)

/-- The host ends at the first colon that stands in no bracket. -/
def hostLength (special bracket : Bool) : List Char → Nat
  | [] => 0
  | c :: cs =>
    if (c = ':' && !bracket) || isEnd special c then 0
    else hostLength special (if c = '[' then true else if c = ']' then false else bracket) cs + 1

/-- A scheme that is not known may leave the host out, but not before a port. -/
def readHost (special : Bool) (cs : List Char) : Except UrlFault (Option Host × List Char) := do
  let length := hostLength special false cs
  let name := cs.take length
  let rest := cs.drop length
  if special then return (some (← Host.read name), rest)
  else if name.isEmpty then
    if rest.head? = some ':' then .error .emptyHost else return (none, rest)
  else return (some (← Host.readVerbatim name), rest)

def readPort (scheme : String) (cs : List Char) : Except UrlFault (Option Nat × List Char) :=
  match cs with
  | ':' :: cs =>
    let ds := cs.takeWhile Char.isDigit
    let rest := cs.drop ds.length
    let n := Number.digitsValue ds
    if 65535 < n || !rest.head?.all (isEnd true) then .error .invalidPort
    else .ok (if ds.isEmpty || some n = defaultPort scheme then none else some n, rest)
  | cs => .ok (none, cs)

/-- The path behind an authority; schemes that are known have one always. -/
def pathBehind (special : Bool) (cs : List Char) : String :=
  match cs with
  | [] => if special then "/" else ""
  | c :: rest => Path.text (Path.segments special false (if isSlash special c then rest else cs))

def readAuthority (scheme : String) (cs : List Char) : Except UrlFault Url := do
  let special := isSpecial scheme
  let (userinfo, cs) ← readUserinfo special cs
  let (host, cs) ← readHost special cs
  let (port, cs) ← readPort scheme cs
  if host = none && !userinfo.isEmpty then .error .emptyHost
  else
    let (path, tail) := cutPath cs
    return build scheme (some ⟨userinfo, host, port⟩) (pathBehind special path) tail

/-- The host of a file, if it is another one than this, and what follows it. A drive is no host. -/
def readFileHost (cs : List Char) : Except UrlFault (Option Host × List Char) := do
  let name := cs.takeWhile fun c => !isEnd true c
  let rest := cs.drop name.length
  if Path.isDrive (String.ofList name) then return (none, cs)
  else if name.isEmpty then return (none, rest)
  else
    let host ← Host.read name
    return (if host = .domain "localhost" then none else some host, rest)

/-- A file, of which the segments are read from `cs`. A path that starts with a drive has no host. -/
def fileUrl (host : Option Host) (cs : List Char) : Url :=
  let (path, tail) := cutPath cs
  let segments := Path.segments true true path
  let host := if segments.head?.any Path.isDrive then none else host
  build "file" (some ⟨"", host, none⟩) (Path.text (segments.dropWhile (·.isEmpty))) tail

def readFile (cs : List Char) : Except UrlFault Url := do
  match cs with
  | a :: b :: rest =>
    if isSlash true a && isSlash true b then
      let (host, rest) ← readFileHost rest
      let behind := if host.isSome && rest.head?.any (isSlash true) then rest.drop 1 else rest
      return fileUrl host behind
    else return fileUrl none (if isSlash true a then b :: rest else cs)
  | [a] => return fileUrl none (if isSlash true a then [] else cs)
  | [] => return fileUrl none []

def readOther (scheme : String) (cs : List Char) : Except UrlFault Url :=
  match cs with
  | '/' :: '/' :: rest => readAuthority scheme rest
  | '/' :: rest =>
    let (path, tail) := cutPath rest
    .ok (build scheme none (Path.text (Path.segments false false path)) tail)
  | rest =>
    let (path, tail) := cutPath rest
    .ok (build scheme none (Percent.encode "" path) tail)

def isSchemeChar (c : Char) : Bool := c.isAlphanum || c = '+' || c = '-' || c = '.'

/-- A scheme starts with a letter and ends at the first colon. -/
def readScheme (cs : List Char) : Except UrlFault (String × List Char) :=
  match cs.head?, Text.cut (fun c => !isSchemeChar c) cs with
  | some first, (scheme, ':' :: rest) =>
    if first.isAlpha then .ok ((String.ofList scheme).toLower, rest) else .error .noScheme
  | _, _ => .error .noScheme

def isControlOrSpace (c : Char) : Bool := c.toNat ≤ 0x20

def read (text : String) : Except UrlFault Url := do
  let trimmed := Text.dropEnd isControlOrSpace (text.toList.dropWhile isControlOrSpace)
  let cs := trimmed.filter fun c => c ≠ '\t' ∧ c ≠ '\n' ∧ c ≠ '\r'
  let (scheme, rest) ← readScheme cs
  if isFile scheme then readFile rest
  else if isSpecial scheme then readAuthority scheme (rest.dropWhile (isSlash true))
  else readOther scheme rest

end Stowage.Url
