import Stowage.Document.Basic
import Stowage.Text.Split

/-! The text of a document in YAML, in blocks: a list stands no further in than the key it belongs to. -/
namespace Stowage.Document

/-- Whether a colon before a blank, or a blank before a number sign, would end a plain text. -/
def endsPlain : List Char → Bool
  | ':' :: ' ' :: _ | ' ' :: '#' :: _ => true
  | [':'] => true
  | _ :: rest => endsPlain rest
  | [] => false

/-- Words that stand for other values than themselves. -/
def yamlWords : List String := ["null", "~", "true", "false", "y", "n", "yes", "no", "on", "off"]

/-- Whether a text means itself when it stands without quotes. -/
def isPlain (s : String) : Bool :=
  match s.toList with
  | [] => false
  | c :: rest =>
    let starts :=
      if c = '.' then rest.head?.any Char.isAlpha
      else !"-?:,[]\x7b\x7d#&*!|>'\"%@` +0123456789".toList.contains c
    starts && !yamlWords.contains s.toLower && !endsPlain (c :: rest) &&
      rest.getLast? ≠ some ' ' && rest.all fun d => 0x20 ≤ d.toNat

def yamlText (s : String) : String :=
  if isPlain s then s
  else "'" ++ String.ofList (s.toList.flatMap fun c => if c = '\'' then ['\'', '\''] else [c]) ++ "'"

def indent (depth : Nat) : String := String.ofList (List.replicate (2 * depth) ' ')

mutual
/-- A value after its key or dash: on the same line, or in a block of its own. -/
def yamlValue (depth : Nat) (inList : Bool) : Document → String
  | null => " null\n"
  | bool b => if b then " true\n" else " false\n"
  | number n => " " ++ n.text ++ "\n"
  | string s => " " ++ yamlText s ++ "\n"
  | array [] => " []\n"
  | object [] => " \x7b\x7d\n"
  | array (d :: ds) =>
    if inList then " " ++ yamlItems (depth + 1) true (d :: ds)
    else "\n" ++ yamlItems depth false (d :: ds)
  | object (m :: ms) =>
    if inList then " " ++ yamlMembers (depth + 1) true (m :: ms)
    else "\n" ++ yamlMembers (depth + 1) false (m :: ms)

/-- The first line of a block may be begun already. -/
def yamlItems (depth : Nat) (begun : Bool) : List Document → String
  | [] => ""
  | d :: ds =>
    (if begun then "" else indent depth) ++ "-" ++ yamlValue depth true d ++ yamlItems depth false ds

def yamlMembers (depth : Nat) (begun : Bool) : List (String × Document) → String
  | [] => ""
  | (k, d) :: ms =>
    (if begun then "" else indent depth) ++ yamlText k ++ ":" ++ yamlValue depth false d ++
      yamlMembers depth false ms
end

def renderYaml (d : Document) : String := yamlMembers 0 false d.members

end Stowage.Document
