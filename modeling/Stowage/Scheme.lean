import Stowage.Text.Quoted

/-! The schemes by which a registry is reached. -/
namespace Stowage

inductive Scheme where
  | http | https
deriving DecidableEq, Repr, Inhabited

namespace Scheme

def text : Scheme → String
  | http => "http"
  | https => "https"

/-- Reads a scheme in any mixture of cases; the message shows it in lower case. -/
def read (s : String) : Except String Scheme :=
  let lower := s.toLower
  if lower = "http" then .ok http
  else if lower = "https" then .ok https
  else .error s!"unknown scheme {Text.quoted lower} (expected http or https)"

end Scheme
end Stowage
