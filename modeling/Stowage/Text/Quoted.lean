import Stowage.Text.Printable

/-! Texts quoted for a message: double quotes around, and an escape for every character that would
end the quotation, leave the line or not be seen. -/
namespace Stowage.Text

def hexDigits (n : Nat) : String := String.ofList (Nat.toDigits 16 n)

def escape (c : Char) : String :=
  if c = '"' then "\\\""
  else if c = '\\' then "\\\\"
  else if c = '\n' then "\\n"
  else if c = '\r' then "\\r"
  else if c = '\t' then "\\t"
  else if c = '\x00' then "\\0"
  else if isPrintable c then c.toString
  else "\\u\x7b" ++ hexDigits c.toNat ++ "\x7d"

def quoted (s : String) : String :=
  s.toList.foldl (fun out c => out ++ escape c) "\"" ++ "\""

example : quoted "a\"b\u200b'" = "\"a\\\"b\\u\x7b200b\x7d'\"" := by decide +kernel

end Stowage.Text
