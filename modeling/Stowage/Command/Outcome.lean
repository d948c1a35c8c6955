import Stowage.Command.Arguments
import Stowage.Document.Yaml
import Stowage.Kinds.Definition
import Stowage.Pass

/-! What a command leaves behind: an exit code, and what it has printed. -/
namespace Stowage

structure Outcome where
  code : Nat := 0
  stdout : String := ""
  stderr : String := ""
deriving DecidableEq, Repr

def indented (mark : String) (blanks : Nat) (text : String) : String :=
  let lines := (Text.splitOn '\n' text.toList).map String.ofList
  mark ++ String.intercalate ("\n" ++ String.ofList (List.replicate blanks ' ')) lines

/-- The number of a cause, to the right of a column of five. -/
def causeMark (n : Nat) : String :=
  let digits := toString n
  String.ofList (List.replicate (5 - digits.length) ' ') ++ digits ++ ": "

def causeLines (causes : List String) : List String :=
  match causes with
  | [cause] => [indented "    " 4 cause]
  | causes => causes.zipIdx.map fun (cause, n) => indented (causeMark n) 7 cause

/-- The report of an error; a single cause has no number. -/
def errorReport (message : String) (causes : List String) : String :=
  let header := s!"Error: {message}\n"
  if causes.isEmpty then header
  else header ++ "\nCaused by:\n" ++ String.join ((causeLines causes).map (· ++ "\n"))

example : errorReport "transfer failed" ["no route"] =
    "Error: transfer failed\n\nCaused by:\n    no route\n" := by decide +kernel

def Misuse.message : Misuse → String
  | noArguments | noCommand => "a command is required"
  | unknownCommand word => s!"unrecognized subcommand '{word}'"
  | unknownArgument argument => s!"unexpected argument '{argument}' found"
  | missing what => s!"the required argument {what} was not provided"
  | noValue flag => s!"a value is required for '--{flag.long}' but none was supplied"
  | notAChoice flag value | badValue flag value => s!"invalid value '{value}' for '--{flag.long}'"
  | surplusValue flag value => s!"unexpected value '{value}' for '--{flag.long}' found"
  | repeated flag => s!"the argument '--{flag.long}' cannot be used multiple times"

namespace Outcome

def usage : String :=
  "Snapshot component resources into the local registry\n\n" ++
  "Usage: ferryctl [OPTIONS] <COMMAND>\n\n" ++
  "Commands:\n" ++
  "  run        Run the controller until SIGINT/SIGTERM\n" ++
  "  reconcile  Reconcile one Resource once and print the outcome\n" ++
  "  transfer   Transfer one artifact into the local registry, no cluster needed\n" ++
  "  crd        Print the CustomResourceDefinitions as a YAML stream\n" ++
  "  help       Print this message or the help of the given subcommand(s)\n"

def ofStop : Stop → Outcome
  | .help => { stdout := usage }
  | .version => { stdout := "ferryctl 0.1.0\n" }
  | .misuse cause => { code := 2, stderr := s!"error: {cause.message}\n" }

def definitions : Outcome where
  stdout := String.join (kindDefinitions.map fun k => "---\n" ++ k.document.renderYaml)

def ofTransfer (format : Format) (d : Destination) :
    Except TransferFault TransferReport → Outcome
  | .error fault =>
    { code := 1, stderr := errorReport "transfer failed" (fault.message :: fault.causes) }
  | .ok report =>
    match format with
    | .json => { stdout := report.document.renderPretty ++ "\n" }
    | .human => {
        stdout := s!"{report.remote} -> {report.destination}\n" ++
          s!"layer {report.layerDigest} ({report.bytes} bytes)\n" ++
          s!"snapshot ref {d.snapshotRef}\n" }

def passDocument (key : ObjectKey) (requeue : Requeue) (error : Option PassError) : Document :=
  .ofPresent [
    ("resource", some key.document),
    ("ok", some (.bool error.isNone)),
    ("requeueSecs", some (match requeue.seconds? with
      | some n => .nat n
      | none => .null)),
    ("error", error.map fun e => .string e.message)]

def ofPass (format : Format) (key : ObjectKey) : Except Failure Requeue → Outcome
  | .ok requeue =>
    match format with
    | .json => { stdout := (passDocument key requeue none).renderPretty ++ "\n" }
    | .human => { stdout := s!"{key.text}: converged, requeue {requeue.text}\n" }
  | .error f =>
    let message := f.error.message
    let report := errorReport message []
    match format with
    | .json =>
      { code := 1, stderr := report
        stdout := (passDocument key f.requeue (some f.error)).renderPretty ++ "\n" }
    | .human =>
      { code := 1
        stderr := s!"{key.text}: failed, requeue {f.requeue.text}: {message}\n" ++ report }

end Outcome
end Stowage
