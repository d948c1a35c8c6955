import Stowage.Url.Host
import Stowage.Url.Percent

/-! URLs and their text. -/
namespace Stowage

structure Authority where
  /-- Name and password before the host, with the `@` after them. -/
  userinfo : String
  host : Option Host
  port : Option Nat
deriving DecidableEq, Repr

def Authority.text (a : Authority) : String :=
  a.userinfo ++ (a.host.map Host.text).getD "" ++
    match a.port with
    | some n => ":" ++ toString n
    | none => ""

structure Url where
  scheme : String
  authority : Option Authority
  path : String
  query : Option String
  fragment : Option String
deriving DecidableEq, Repr

namespace Url

def host (u : Url) : Option Host := u.authority.bind (·.host)

def port (u : Url) : Option Nat := u.authority.bind (·.port)

/-- What stands before the path; a dot keeps a path from being read as more than a path. -/
def front (u : Url) : String :=
  match u.authority with
  | some a => "//" ++ a.text
  | none => if u.path.startsWith "//" then "/." else ""

def text (u : Url) : String :=
  u.scheme ++ ":" ++ u.front ++ u.path ++
  (match u.query with
    | some q => "?" ++ q
    | none => "") ++
  (match u.fragment with
    | some f => "#" ++ f
    | none => "")

def addParameter (name value : String) (u : Url) : Url :=
  let parameter := Percent.encodeParameter name ++ "=" ++ Percent.encodeParameter value
  let query :=
    match u.query with
    | none | some "" => parameter
    | some q => q ++ "&" ++ parameter
  { u with query := some query }

end Url
end Stowage
