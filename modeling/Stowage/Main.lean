import Std.Time.DateTime.Timestamp
import Stowage.Command.Carrier
import Stowage.Command.Run
import Stowage.Document.Reader

/-! The program. It reads its arguments and the environment, and prints what comes of the command. What
it has to say to registries and to the cluster goes out on standard output, a document a line; the
answers, and the changes that a cluster tells of, come in on standard input in the same form. -/
namespace Stowage.Main

def variableNames : List String :=
  ["FERRY_REGISTRY_ADDR", "FERRY_PULL_SCHEME", "FERRY_PUSH_SCHEME", "FERRY_HTTP_TIMEOUT_SECS",
   "FERRY_NAMESPACE", "FERRY_DEFAULT_INTERVAL"]

def clockMoment : IO Moment := do
  let nanos := (← Std.Time.Timestamp.now).toNanosecondsSinceUnixEpoch.val
  return ⟨nanos / Span.nanosPerSecond, (nanos % Span.nanosPerSecond).toNat⟩

def send (d : Document) : IO Unit := do
  let out ← IO.getStdout
  out.putStrLn d.render
  out.flush

/-- The next document of standard input; null where there is none. -/
def receive : IO Document := do
  let line ← (← IO.getStdin).getLine
  match Document.read line with
  | .ok d => return d
  | .error _ => return .null

def relay (c : Contact) : IO c.Answer := do
  send c.document
  return c.readAnswer (← receive)

def carry : (c : Contact) → IO c.Answer
  | .now => clockMoment
  | .exchange proxy r => relay (.exchange proxy r)
  | .cluster r => relay (.cluster r)

partial def follow (o : RegistryOptions) (fallback : Span) (d : Dispatcher) : IO Unit := do
  match Change.read (← receive) with
  | .error _ => return
  | .ok change =>
    let (keys, d) := d.step change
    for key in keys do
      let _ ← (Contact.pass o fallback key).answerWith carry
    follow o fallback d

def finish (o : Outcome) : IO UInt32 := do
  (← IO.getStdout).putStr o.stdout
  (← IO.getStderr).putStr o.stderr
  return UInt32.ofNat o.code

end Stowage.Main

open Stowage Main in
def main (arguments : List String) : IO UInt32 := do
  let settings ← variableNames.filterMapM fun name => do
    return (← IO.getEnv name).map (name, ·)
  let environment := fun name => List.lookup name settings
  match Invocation.read environment arguments with
  | .error stop => finish (.ofStop stop)
  | .ok i =>
    let fallback := Span.ofSetting (environment "FERRY_DEFAULT_INTERVAL")
    match i.command.outcome? i.format fallback, i.command with
    | some contacts, _ => finish (← contacts.answerWith carry)
    | none, .run o ns =>
      send (.ofMembers [("watch", .ofMembers [("namespace", Contact.orNull ns)])])
      follow o fallback {}
      return 0
    | none, _ => return 0
