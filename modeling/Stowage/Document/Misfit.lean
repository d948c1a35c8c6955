import Stowage.Document.Basic
import Stowage.Text.Quoted

/-! What can be wrong with a part of a document that is to become a value of some type. -/
namespace Stowage

inductive Misfit where
  | wrongKind (found : Document) (expected : String)
  | outOfRange (found : Numeral) (expected : String)
  | missingField (name : String)
  | repeatedField (name : String)
  | tooFew (count : Nat) (record : String) (size : Nat)
  | tooMany (count : Nat)
  | unreadable (reason : String)

def Numeral.described : Numeral → String
  | n@(floating ..) => "floating point `" ++ n.text ++ "`"
  | n => "integer `" ++ n.text ++ "`"

def Document.described : Document → String
  | null => "null"
  | bool b => "boolean `" ++ (if b then "true" else "false") ++ "`"
  | number n => n.described
  | string s => "string " ++ Text.quoted s
  | array _ => "sequence"
  | object _ => "map"

def Misfit.message : Misfit → String
  | wrongKind found expected => s!"invalid type: {found.described}, expected {expected}"
  | outOfRange found expected => s!"invalid value: {found.described}, expected {expected}"
  | missingField name => "missing field `" ++ name ++ "`"
  | repeatedField name => "duplicate field `" ++ name ++ "`"
  | tooFew count record size =>
    let elements := if size = 1 then "1 element" else s!"{size} elements"
    s!"invalid length {count}, expected {record} with {elements}"
  | tooMany count => s!"invalid length {count}, expected fewer elements in array"
  | unreadable reason => reason

end Stowage
