import Stowage.Domain.Basic
import Stowage.Number.Decimal
import Stowage.Text.Quoted
import Stowage.Url.Percent

/-! Hosts of URLs: domains, and addresses of both versions of the internet protocol, each written in
one way only. -/
namespace Stowage

inductive Host where
  | domain (name : String)
  | ipv4 (address : Nat)
  | ipv6 (pieces : List Nat)
  /-- The host of a scheme of which nothing is known. -/
  | verbatim (name : String)
deriving DecidableEq, Repr

inductive UrlFault where
  | noScheme | emptyHost | invalidDomain | invalidCharacter | invalidIPv4 | invalidIPv6 | invalidPort
deriving DecidableEq, Repr

def UrlFault.message : UrlFault → String
  | noScheme => "relative URL without a base"
  | emptyHost => "empty host"
  | invalidDomain => "invalid international domain name"
  | invalidCharacter => "invalid domain character"
  | invalidIPv4 => "invalid IPv4 address"
  | invalidIPv6 => "invalid IPv6 address"
  | invalidPort => "invalid port number"

namespace Host

def isHexDigit (c : Char) : Bool := c.isDigit || ('a' ≤ c && c ≤ 'f') || ('A' ≤ c && c ≤ 'F')

def hexDigitValue (c : Char) : Nat :=
  if c.isDigit then c.toNat - '0'.toNat else c.toLower.toNat - 'a'.toNat + 10

def valueIn (base : Nat) (digits : List Char) : Nat :=
  digits.foldl (fun n c => base * n + hexDigitValue c) 0

/-- A part of an address: hexadecimal after `0x`, octal after another leading zero. -/
def ipv4Part? : List Char → Option Nat
  | [] => none
  | '0' :: 'x' :: ds | '0' :: 'X' :: ds => if ds.all isHexDigit then some (valueIn 16 ds) else none
  | '0' :: d :: ds =>
    if (d :: ds).all fun c => '0' ≤ c && c ≤ '7' then some (valueIn 8 (d :: ds)) else none
  | ds => if ds.all Char.isDigit then some (valueIn 10 ds) else none

/-- The parts of a name between dots; a dot at the end starts no other part. -/
def labels (name : List Char) : List (List Char) :=
  let parts := Text.splitOn '.' name
  if 1 < parts.length && parts.getLast? = some [] then parts.dropLast else parts

/-- Whether a name must be an address. -/
def endsInNumber (name : List Char) : Bool :=
  match (labels name).getLast? with
  | none | some [] => false
  | some part => part.all Char.isDigit || (ipv4Part? part).isSome

/-- The last part fills the bytes that the parts before it leave. -/
def readIPv4 (name : List Char) : Except UrlFault Host :=
  match (labels name).mapM ipv4Part? with
  | none => .error .invalidIPv4
  | some parts =>
    match parts.getLast? with
    | none => .error .invalidIPv4
    | some last =>
      let front := parts.dropLast
      if 3 < front.length || front.any (255 < ·) || 1 <<< (8 * (4 - front.length)) ≤ last then
        .error .invalidIPv4
      else
        .ok (.ipv4 (front.zipIdx.foldl (fun total (n, i) => total + n <<< (8 * (3 - i))) last))

/-- The four bytes of an address that stands at the end of another: decimal, without leading zeros. -/
def dottedQuad? (cs : List Char) : Option (List Nat) := do
  let bytes ← (Text.splitOn '.' cs).mapM fun ds =>
    if ds.isEmpty || !ds.all Char.isDigit || (1 < ds.length && ds.head? = some '0') then none
    else
      let n := Number.digitsValue ds
      if n ≤ 255 then some n else none
  if bytes.length = 4 then some bytes else none

def ipv6Pieces? (parts : List (List Char)) : Option (List Nat) :=
  match parts with
  | [] => some []
  | [last] =>
    if last.contains '.' then do
      match ← dottedQuad? last with
      | [a, b, c, d] => some [256 * a + b, 256 * c + d]
      | _ => none
    else if last.isEmpty || 4 < last.length || !last.all isHexDigit then none
    else some [valueIn 16 last]
  | part :: rest =>
    if part.isEmpty || 4 < part.length || !part.all isHexDigit then none
    else (valueIn 16 part :: ·) <$> ipv6Pieces? rest

def splitDouble (seen : List Char) : List Char → Option (List Char × List Char)
  | ':' :: ':' :: rest => some (seen.reverse, rest)
  | c :: rest => splitDouble (c :: seen) rest
  | [] => none

def colonParts (cs : List Char) : List (List Char) := if cs.isEmpty then [] else Text.splitOn ':' cs

/-- Eight pieces, of which a run of zeros may be left out once. -/
def readIPv6 (cs : List Char) : Except UrlFault Host :=
  let pieces? : Option (List Nat) :=
    match splitDouble [] cs with
    | none => do
      let pieces ← ipv6Pieces? (colonParts cs)
      if pieces.length = 8 then some pieces else none
    | some (left, right) => do
      let before ← ipv6Pieces? (colonParts left)
      let after ← ipv6Pieces? (colonParts right)
      if left.contains '.' || 7 < before.length + after.length then none
      else some (before ++ List.replicate (8 - before.length - after.length) 0 ++ after)
  match pieces? with
  | some pieces => .ok (.ipv6 pieces)
  | none => .error .invalidIPv6

/-- Bytes, of which some may be written with a percent sign. -/
def percentDecoded : Bytes → Bytes
  | 0x25 :: a :: b :: rest =>
    match Bytes.hexValue? (Char.ofNat a.toNat), Bytes.hexValue? (Char.ofNat b.toNat) with
    | some high, some low => UInt8.ofNat (16 * high + low) :: percentDecoded rest
    | _, _ => 0x25 :: percentDecoded (a :: b :: rest)
  | byte :: rest => byte :: percentDecoded rest
  | [] => []

/-- The characters that a name has once its bytes are decoded. -/
def decoded? (cs : List Char) : Option (List Char) :=
  let bytes := percentDecoded (Bytes.ofText (String.ofList cs))
  (String.fromUTF8? (ByteArray.mk bytes.toArray)).map (·.toList)

def readBrackets (cs : List Char) : Except UrlFault Host :=
  match cs.reverse with
  | ']' :: inner => readIPv6 inner.reverse
  | _ => .error .invalidIPv6

def read (cs : List Char) : Except UrlFault Host :=
  match cs with
  | [] => .error .emptyHost
  | '[' :: rest => readBrackets rest
  | cs =>
    match decoded? cs >>= Domain.toAscii? with
    | none => .error .invalidDomain
    | some [] => .error .emptyHost
    | some name =>
      if endsInNumber name then readIPv4 name else .ok (.domain (String.ofList name))

def isForbidden (c : Char) : Bool := "\x00\t\n\r #/:<>?@[\\]^|".toList.contains c

def readVerbatim (cs : List Char) : Except UrlFault Host :=
  match cs with
  | '[' :: rest => readBrackets rest
  | cs =>
    if cs.any isForbidden then .error .invalidCharacter
    else .ok (.verbatim (Percent.encode "" cs))

/-- The longest run of zeros, as its start and length; of equal runs the first. -/
def longestRun (pieces : List Nat) (index : Nat) (best : Nat × Nat) : Nat × Nat :=
  match pieces with
  | [] => best
  | p :: rest =>
    let run := ((p :: rest).takeWhile (· = 0)).length
    longestRun rest (index + 1) (if best.2 < run then (index, run) else best)

def joined (pieces : List Nat) : String := String.intercalate ":" (pieces.map Text.hexDigits)

def text : Host → String
  | domain name | verbatim name => name
  | ipv4 a =>
    String.intercalate "." ([a >>> 24, (a >>> 16) % 256, (a >>> 8) % 256, a % 256].map toString)
  | ipv6 pieces =>
    match longestRun pieces 0 (0, 1) with
    | (_, 1) => "[" ++ joined pieces ++ "]"
    | (start, run) =>
      "[" ++ joined (pieces.take start) ++ "::" ++ joined (pieces.drop (start + run)) ++ "]"

end Host
end Stowage
