/-! Characters written as their bytes in UTF-8, with a percent sign before each byte. -/
namespace Stowage.Percent

def digit (n : Nat) : Char := (Nat.digitChar n).toUpper

def byte (b : UInt8) : String := String.ofList ['%', digit (b.toNat / 16), digit (b.toNat % 16)]

def bytes (c : Char) : String := c.toString.toUTF8.toList.foldl (fun out b => out ++ byte b) ""

/-- Controls, characters beyond ASCII and those given are written as bytes. -/
def encode (escapes : String) (cs : List Char) : String :=
  cs.foldl (fun out c =>
    if c.toNat < 0x20 || 0x7f ≤ c.toNat || escapes.toList.contains c then out ++ bytes c
    else out.push c) ""

/-- Letters, digits and a few marks stand for themselves in a parameter, and a plus for a blank. -/
def encodeParameter (text : String) : String :=
  text.toList.foldl (fun out c =>
    if c.isAlphanum || "*-._".toList.contains c then out.push c
    else if c = ' ' then out.push '+'
    else out ++ bytes c) ""

example : encode " " "a \u00e9".toList = "a%20%C3%A9" := by decide +kernel
example : encodeParameter "a b:c" = "a+b%3Ac" := by decide +kernel

end Stowage.Percent
