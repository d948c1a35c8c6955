import Stowage.Command.Basic
import Stowage.Number.Decimal

/-! The flags of the command line, and the values given to them. -/
namespace Stowage

inductive Flag where
  | help | programVersion
  | output | logJson
  | registryAddress | pullScheme | pushScheme | timeout
  | «namespace»
  | reference | digest | version | name | tag
deriving DecidableEq, Repr

namespace Flag

def long : Flag → String
  | help => "help"
  | programVersion | version => "version"
  | output => "output"
  | logJson => "log-json"
  | registryAddress => "registry-addr"
  | pullScheme => "pull-scheme"
  | pushScheme => "push-scheme"
  | timeout => "http-timeout-secs"
  | «namespace» => "namespace"
  | reference => "ref"
  | digest => "digest"
  | name => "name"
  | tag => "tag"

def letter? : Flag → Option Char
  | help => some 'h'
  | programVersion => some 'V'
  | output => some 'o'
  | _ => none

def takesValue : Flag → Bool
  | help | programVersion | logJson => false
  | _ => true

def environmentName? : Flag → Option String
  | registryAddress => some "FERRY_REGISTRY_ADDR"
  | pullScheme => some "FERRY_PULL_SCHEME"
  | pushScheme => some "FERRY_PUSH_SCHEME"
  | timeout => some "FERRY_HTTP_TIMEOUT_SECS"
  | «namespace» => some "FERRY_NAMESPACE"
  | _ => none

end Flag

inductive Misuse where
  | noArguments
  | noCommand
  | unknownCommand (word : String)
  | unknownArgument (argument : String)
  | missing (what : String)
  | noValue (flag : Flag)
  | notAChoice (flag : Flag) (value : String)
  | badValue (flag : Flag) (value : String)
  | surplusValue (flag : Flag) (value : String)
  | repeated (flag : Flag)
deriving DecidableEq, Repr

structure Values where
  given : List Flag := []
  format : Format := .human
  logJson : Bool := false
  registryAddress : Option String := none
  pullScheme : Scheme := .http
  pushScheme : Scheme := .http
  timeout : Nat := 300
  «namespace» : Option String := none
  reference : Option String := none
  digest : Option String := none
  version : Option String := none
  name : Option String := none
  tag : Option String := none
deriving DecidableEq, Repr

namespace Values

def readFormat (text : String) : Except Misuse Format :=
  match Format.read? text with
  | some f => .ok f
  | none => .error (.notAChoice .output text)

def readScheme (flag : Flag) (text : String) : Except Misuse Scheme :=
  (Scheme.read text).mapError fun _ => .badValue flag text

/-- A plus may stand before the digits of a number of 64 bits. -/
def readSeconds (text : String) : Except Misuse Nat :=
  let digits :=
    match text.toList with
    | '+' :: cs => cs
    | cs => cs
  if digits ≠ [] ∧ digits.all Char.isDigit ∧ Number.digitsValue digits < UInt64.size then
    .ok (Number.digitsValue digits)
  else .error (.badValue .timeout text)

def assign (v : Values) (flag : Flag) (text : String) : Except Misuse Values := do
  match flag with
  | .output => return { v with format := ← readFormat text }
  | .registryAddress => return { v with registryAddress := some text }
  | .pullScheme => return { v with pullScheme := ← readScheme flag text }
  | .pushScheme => return { v with pushScheme := ← readScheme flag text }
  | .timeout => return { v with timeout := ← readSeconds text }
  | .namespace => return { v with «namespace» := some text }
  | .reference => return { v with reference := some text }
  | .digest => return { v with digest := some text }
  | .version => return { v with version := some text }
  | .name => return { v with name := some text }
  | .tag => return { v with tag := some text }
  | .logJson => return { v with logJson := true }
  | .help | .programVersion => return v

/-- Gives a value to a flag that has none yet. -/
def give (v : Values) (flag : Flag) (text : String) : Except Misuse Values :=
  if flag ∈ v.given then .error (.repeated flag)
  else { v with given := flag :: v.given }.assign flag text

def fill (environment : String → Option String) (v : Values) : List Flag → Except Misuse Values
  | [] => .ok v
  | flag :: rest =>
    match flag.environmentName?.bind environment with
    | some text =>
      if flag ∈ v.given then fill environment v rest
      else do fill environment (← v.give flag text) rest
    | none => fill environment v rest

def need (what : String) (value : Option String) : Except Misuse String :=
  match value with
  | some text => .ok text
  | none => .error (.missing what)

def registry (v : Values) : Except Misuse RegistryOptions :=
  return ⟨← need "--registry-addr" v.registryAddress, v.pullScheme, v.pushScheme, v.timeout⟩

end Values
end Stowage
