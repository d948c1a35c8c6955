import Stowage.Url.Reader

/-! Addresses of proxies: a URL of the web, or a host with a port, which is reached by plain HTTP. -/
namespace Stowage

structure Proxy where
  scheme : String
  host : Host
  port : Option Nat
deriving DecidableEq, Repr

namespace Proxy

inductive Fault where
  | badUrl (cause : UrlFault)
  | noHost (url : String)
  | badHost
  | unknownScheme
deriving DecidableEq, Repr

def Fault.causes : Fault → List String
  | badUrl cause =>
    ["builder error: builder error: " ++ cause.message, "builder error: " ++ cause.message, cause.message]
  | noHost url =>
    let root := "URL scheme is not allowed"
    let inner := s!"builder error for url ({url}): " ++ root
    ["builder error: " ++ inner, inner, root]
  | badHost => ["builder error: invalid uri character", "invalid uri character"]
  | unknownScheme => ["builder error: unknown proxy scheme", "unknown proxy scheme"]

def Fault.message (f : Fault) : String := f.causes.headD ""

/-- Whether the address may be one that leaves out the scheme. -/
def Fault.lacksScheme : Fault → Bool
  | badUrl cause => cause = .noScheme
  | noHost _ => true
  | badHost | unknownScheme => false

def marksScheme : List Char → Bool
  | ':' :: '/' :: '/' :: _ => true
  | _ :: cs => marksScheme cs
  | [] => false

def readHosted (text : String) : Except Fault Url :=
  match Url.read text with
  | .error cause => .error (.badUrl cause)
  | .ok url => if url.host.isSome then .ok url else .error (.noHost url.text)

/-- A text that may lack a scheme is tried once more with that of plain HTTP. -/
def readUrl (text : String) : Except Fault Url :=
  match readHosted text with
  | .ok url => .ok url
  | .error fault =>
    if fault.lacksScheme then (readHosted ("http://" ++ text)).mapError fun _ => fault
    else .error fault

/-- Domains may hold characters that cannot be sent. -/
def isSendable : Host → Bool
  | .domain name => name.toList.all fun c => !"\"`\x7b\x7d".toList.contains c
  | _ => true

def ofUrl (url : Url) : Except Fault Proxy :=
  if url.scheme = "http" ∨ url.scheme = "https" then
    match url.host with
    | some host => if isSendable host then .ok ⟨url.scheme, host, url.port⟩ else .error .badHost
    | none => .error (.noHost url.text)
  else .error .unknownScheme

def read (address : String) : Except Fault Proxy :=
  readUrl (if marksScheme address.toList then address else "http://" ++ address) >>= ofUrl

end Proxy
end Stowage
