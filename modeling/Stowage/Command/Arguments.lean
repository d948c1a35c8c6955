import Stowage.Command.Flag
import Stowage.Text.Split

/-! Reading the command line. Arguments are taken one by one; the value of a flag that stands in an
argument of its own is looked at only when the next flag or word comes, or at the end. -/
namespace Stowage

inductive Verb where
  | run | reconcile | transfer | crd
deriving DecidableEq, Repr

/-- Why no command is run: it was asked what there is, or asked wrongly. -/
inductive Stop where
  | help
  | version
  | misuse (cause : Misuse)
deriving DecidableEq, Repr

inductive Argument where
  | doubleDash
  | long (name : String) (value : Option String)
  /-- A letter after a single dash, and what follows it. -/
  | letter (c : Char) (rest : List Char)
  | word (text : String)
deriving DecidableEq, Repr

def Argument.of (text : String) : Argument :=
  match text.toList with
  | ['-', '-'] => doubleDash
  | '-' :: '-' :: cs =>
    let (name, value) := Text.cutAt '=' cs
    long (String.ofList name) (value.map String.ofList)
  | '-' :: c :: cs => letter c cs
  | _ => word text

/-- The value that follows a letter at once; an equals sign may stand between. -/
def attachedValue : List Char → Option String
  | [] => none
  | '=' :: cs => some (String.ofList cs)
  | cs => some (String.ofList cs)

/-- What can be given on one level of the command line. -/
structure Level where
  flags : List Flag
  /-- The words that it takes, by what they say. -/
  words : List String := []
  /-- The words that lead to another level. -/
  commands : List String := []

namespace Level

def common : List Flag := [.output, .logJson, .help]

def registry : List Flag := [.registryAddress, .pullScheme, .pushScheme, .timeout]

def commandNames : List String := ["run", "reconcile", "transfer", "crd", "help"]

def top : Level where
  flags := .programVersion :: common
  commands := commandNames

def of : Verb → Level
  | .run => { flags := registry ++ .namespace :: common }
  | .reconcile => { flags := registry ++ common, words := ["<NAMESPACE>", "<NAME>"] }
  | .transfer => { flags := registry ++ [.reference, .digest, .version, .name, .tag] ++ common }
  | .crd => { flags := common }

/-- Why a word is one too many; the name of a command after a double dash is no command. -/
def surplus (l : Level) (dashed : Bool) (word : String) : Misuse :=
  if l.commands.isEmpty || (dashed && l.commands.contains word) then .unknownArgument word
  else .unknownCommand word

end Level

/-- How far the arguments of one level have been read. -/
structure Scan where
  values : Values := {}
  words : List String := []
  /-- The last flag, if its value stands apart, and that value once it has come. -/
  pending : Option (Flag × Option String) := none
  /-- Whether there was a double dash: all that follows is words. -/
  dashed : Bool := false

namespace Scan

/-- Looks at the value of the last flag. -/
def settle (s : Scan) : Except Misuse Scan :=
  match s.pending with
  | none => .ok s
  | some (flag, none) => .error (.noValue flag)
  | some (flag, some text) => return { s with values := ← s.values.give flag text, pending := none }

def awaitsValue (s : Scan) : Bool :=
  match s.pending with
  | some (_, none) => true
  | _ => false

/-- A flag with a value in the same argument, or none. -/
def takeFlag (s : Scan) (flag : Flag) (value : Option String) : Except Stop Scan :=
  if flag.takesValue then
    (do
      let s ← s.settle
      match value with
      | some text => return { s with values := ← s.values.give flag text }
      | none => return { s with pending := some (flag, none) }).mapError Stop.misuse
  else
    match value with
    | some text => .error (.misuse (.surplusValue flag text))
    | none => do
      let s ← s.settle.mapError Stop.misuse
      match flag with
      | .help => .error .help
      | .programVersion => .error .version
      | _ => return { s with values := ← (s.values.give flag "").mapError Stop.misuse }

def takeWord (l : Level) (s : Scan) (text : String) : Except Stop Scan :=
  if s.words.length < l.words.length then do
    let s ← s.settle.mapError Stop.misuse
    return { s with words := s.words ++ [text] }
  else .error (.misuse (l.surplus s.dashed text))

/-- Takes an argument; a flag that is not known is refused before the value of the last flag is. -/
def take (l : Level) (s : Scan) (text : String) : Except Stop Scan :=
  if s.dashed then s.takeWord l text
  else
    match Argument.of text with
    | .doubleDash => .ok { s with dashed := true }
    | .long name value =>
      match l.flags.find? (·.long = name) with
      | some flag => s.takeFlag flag value
      | none => .error (.misuse (.unknownArgument text))
    | .letter c rest =>
      match l.flags.find? (·.letter? = some c) with
      | some flag => s.takeFlag flag (if flag.takesValue then attachedValue rest else none)
      | none => .error (.misuse (.unknownArgument text))
    | .word text =>
      match s.pending with
      | some (flag, none) => .ok { s with pending := some (flag, some text) }
      | _ => s.takeWord l text

end Scan

def Verb.command (verb : Verb) (v : Values) (words : List String) : Except Misuse Command := do
  match verb with
  | .run => return .run (← v.registry) v.namespace
  | .reconcile =>
    let ns ← Values.need "<NAMESPACE>" words[0]?
    let name ← Values.need "<NAME>" words[1]?
    return .reconcile (← v.registry) ⟨ns, name⟩
  | .transfer =>
    let registry ← v.registry
    let reference ← Values.need "--ref" v.reference
    let digest ← Values.need "--digest" v.digest
    let version ← Values.need "--version" v.version
    let name ← Values.need "--name" v.name
    let tag ← Values.need "--tag" v.tag
    return .transfer registry ⟨reference, digest⟩ version name tag
  | .crd => return .crd

def Verb.ofName? (text : String) : Option Verb :=
  if text = "run" then some .run
  else if text = "reconcile" then some .reconcile
  else if text = "transfer" then some .transfer
  else if text = "crd" then some .crd
  else none

namespace Invocation

def readCommand (environment : String → Option String) (verb : Verb) (arguments : List String) :
    Except Stop (Values × Command) := do
  let level := Level.of verb
  let s ← arguments.foldlM (Scan.take level) {}
  (do
    let s ← s.settle
    let values ← s.values.fill environment level.flags
    return (values, ← verb.command values s.words)).mapError Stop.misuse

/-- Help may be asked on one command; no command has others below it. -/
def readHelp : List String → Stop
  | [] => .help
  | word :: rest =>
    if Level.commandNames.contains word then
      match rest with
      | [] => .help
      | below :: _ => .misuse (.unknownCommand below)
    else .misuse (.unknownCommand word)

/-- What is given after the name of a command counts before what is given ahead of it. -/
def combine (outer inner : Values) (command : Command) : Invocation where
  format := if .output ∈ inner.given then inner.format else outer.format
  logJson := outer.logJson || inner.logJson
  command

/-- Reads arguments up to the name of a command, and then the rest; the last value before the name is
looked at after all of that. -/
def readFrom (environment : String → Option String) (s : Scan) :
    List String → Except Stop Invocation
  | [] => do
    let s ← s.settle.mapError Stop.misuse
    .error (.misuse (if s.values.given.isEmpty then .noArguments else .noCommand))
  | argument :: rest =>
    if s.dashed || s.awaitsValue then do readFrom environment (← s.take .top argument) rest
    else if argument = "help" then .error (readHelp rest)
    else
      match Verb.ofName? argument with
      | some verb => do
        let (inner, command) ← readCommand environment verb rest
        let s ← s.settle.mapError Stop.misuse
        return combine s.values inner command
      | none => do readFrom environment (← s.take .top argument) rest

def read (environment : String → Option String) (arguments : List String) :
    Except Stop Invocation := readFrom environment {} arguments

end Invocation
end Stowage
