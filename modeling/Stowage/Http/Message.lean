import Stowage.Bytes
import Stowage.Url.Reader

/-! Requests and responses. The names of headers are in lower case; a name may have several values. -/
namespace Stowage.Http

abbrev Headers := List (String × String)

namespace Headers

def values (name : String) (hs : Headers) : List String :=
  (hs.filter (·.1 = name)).map (·.2)

def first? (name : String) (hs : Headers) : Option String := (values name hs).head?

def add (name value : String) (hs : Headers) : Headers := hs ++ [(name.toLower, value)]

/-- One value for a name, in place of those it had. -/
def set (name value : String) (hs : Headers) : Headers :=
  hs.filter (·.1 ≠ name) ++ [(name, value)]

@[simp] theorem values_set_same (name value : String) (hs : Headers) :
    values name (set name value hs) = [value] := by
  simp [values, set, List.filter_filter]

theorem values_set_other {name other : String} (h : other ≠ name) (value : String) (hs : Headers) :
    values other (set name value hs) = values other hs := by
  have keep : ∀ p : String × String,
      (decide (p.1 = other) && !decide (p.1 = name)) = decide (p.1 = other) := by
    intro p
    by_cases same : p.1 = other
    · simp [same, h]
    · simp [same]
  simp [values, set, List.filter_filter, keep, h.symm]

end Headers

structure Request where
  method : String := "GET"
  url : Url
  headers : Headers := []
  body : Bytes := []
deriving DecidableEq, Repr

/-- The body may break off while it is read, with a reason. -/
structure Response where
  status : Nat
  headers : Headers := []
  body : Except String Bytes := .ok []

namespace Response

def isSuccess (r : Response) : Bool := 200 ≤ r.status && r.status ≤ 299

end Response
end Stowage.Http
