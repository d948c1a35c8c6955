import Stowage.Span.Basic

/-! When a resource is to be looked at again, and what the dispatcher is told about it. -/
namespace Stowage

inductive Requeue where
  | after (delay : Span)
  | never
deriving DecidableEq, Repr

/-- What the dispatcher does after a pass: come back after a delay, or wait for a change. -/
inductive Action where
  | requeue (delay : Span)
  | awaitChange
deriving DecidableEq, Repr

def Action.text : Action → String
  | requeue delay => "Action \x7b requeue_after: Some(" ++ delay.text ++ ") \x7d"
  | awaitChange => "Action \x7b requeue_after: None \x7d"

namespace Requeue

/-- An interval of zero disables the timed requeue. -/
def every (interval : Span) : Requeue := if interval = .zero then never else after interval

def text : Requeue → String
  | after delay => s!"after {delay.text}"
  | never => "never"

def action : Requeue → Action
  | after delay => if delay = .zero then .awaitChange else .requeue delay
  | never => .awaitChange

/-- After a failure there is always a next pass: after the fallback where no other delay is set. -/
def retryAction (fallback : Span) : Requeue → Action
  | after delay => .requeue (if delay = .zero then fallback else delay)
  | never => .requeue fallback

def seconds? : Requeue → Option Nat
  | after delay => some delay.seconds
  | never => none

end Requeue
end Stowage
