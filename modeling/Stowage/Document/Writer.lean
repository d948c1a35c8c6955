import Stowage.Document.Basic

/-! The text of a document: on one line without blanks, or with one member or item a line. -/
namespace Stowage.Document

def hexDigit (n : Nat) : Char := Nat.digitChar (n % 16)

/-- Quotes, backslashes and control characters are escaped, and nothing else. -/
def escape (c : Char) : String :=
  if c = '"' then "\\\""
  else if c = '\\' then "\\\\"
  else if c = '\n' then "\\n"
  else if c = '\r' then "\\r"
  else if c = '\t' then "\\t"
  else if c = '\x08' then "\\b"
  else if c = '\x0c' then "\\f"
  else if c.toNat < 0x20 then
    String.ofList ['\\', 'u', '0', '0', hexDigit (c.toNat / 16), hexDigit c.toNat]
  else c.toString

def quote (s : String) : String := s.toList.foldl (fun out c => out ++ escape c) "\"" ++ "\""

mutual
def write (quoted : String → String) (out : String) : Document → String
  | null => out ++ "null"
  | bool true => out ++ "true"
  | bool false => out ++ "false"
  | number n => out ++ n.text
  | string s => out ++ quoted s
  | array items => writeItems quoted (out ++ "[") true items ++ "]"
  | object ms => writeMembers quoted (out ++ "\x7b") true ms ++ "\x7d"

def writeItems (quoted : String → String) (out : String) (first : Bool) : List Document → String
  | [] => out
  | d :: ds => writeItems quoted (write quoted (if first then out else out ++ ",") d) false ds

def writeMembers (quoted : String → String) (out : String) (first : Bool) :
    List (String × Document) → String
  | [] => out
  | (k, d) :: ms =>
    let out := (if first then out else out ++ ",") ++ quoted k ++ ":"
    writeMembers quoted (write quoted out d) false ms
end

def render (d : Document) : String := write quote "" d

def newline (out : String) (depth : Nat) : String := out ++ "\n" ++ String.ofList (List.replicate (2 * depth) ' ')

mutual
/-- Appends the document to the text, each level two blanks further in. -/
def writePretty (out : String) (depth : Nat) : Document → String
  | array [] => out ++ "[]"
  | array (d :: ds) =>
    newline (writePrettyItems (out ++ "[") (depth + 1) true (d :: ds)) depth ++ "]"
  | object [] => out ++ "\x7b\x7d"
  | object (m :: ms) =>
    newline (writePrettyMembers (out ++ "\x7b") (depth + 1) true (m :: ms)) depth ++ "\x7d"
  | null => out ++ "null"
  | bool b => out ++ (if b then "true" else "false")
  | number n => out ++ n.text
  | string s => out ++ quote s

def writePrettyItems (out : String) (depth : Nat) (first : Bool) : List Document → String
  | [] => out
  | d :: ds =>
    let out := newline (if first then out else out ++ ",") depth
    writePrettyItems (writePretty out depth d) depth false ds

def writePrettyMembers (out : String) (depth : Nat) (first : Bool) :
    List (String × Document) → String
  | [] => out
  | (k, d) :: ms =>
    let out := newline (if first then out else out ++ ",") depth ++ quote k ++ ": "
    writePrettyMembers (writePretty out depth d) depth false ms
end

def renderPretty (d : Document) : String := writePretty "" 0 d

end Stowage.Document
