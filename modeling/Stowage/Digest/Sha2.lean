import Stowage.Bytes

/-! The SHA-2 hashes of 256 and of 512 bits: one scheme over words of 32 and of 64 bits. Their constants
are the fractional parts of roots of the first primes. -/
namespace Stowage.Digest

/-- The greatest number of `bits` bits of which the power is at most `n`. -/
def root (power n : Nat) : Nat → Nat → Nat
  | 0, found => found
  | bits + 1, found =>
    let next := found + 1 <<< bits
    root power n bits (if Nat.pow next power ≤ n then next else found)

def rootFraction (power p : Nat) : Nat := root power (p <<< (64 * power)) 70 0 % UInt64.size

def isPrime (n : Nat) : Bool := 2 ≤ n && (List.range n).all fun d => d < 2 || n % d ≠ 0

/-- The eighty primes below 410. -/
def primes : List Nat := (List.range 410).filter isPrime

structure Variant (W : Type) where
  wordBytes : Nat
  ofNat : Nat → W
  toNat : W → Nat
  constants : List W
  initial : List W
  big0 : W → W
  big1 : W → W
  small0 : W → W
  small1 : W → W

structure State (W : Type) where
  (a b c d e f g h : W)

namespace Variant

variable {W : Type} [Add W] [XorOp W] [AndOp W] [Complement W] (v : Variant W)

/-- Two words of zeros follow the bit that ends the message, then its length in bits. -/
def padded (message : Bytes) : Bytes :=
  let block := 16 * v.wordBytes
  let used := message.length + 1 + 2 * v.wordBytes
  message ++ 0x80 :: List.replicate ((block - used % block) % block) 0 ++
    Bytes.ofNatBig (2 * v.wordBytes) (8 * message.length)

/-- The next word of a schedule of which the last word stands first. -/
@[specialize]
def extend (schedule : List W) : List W :=
  match schedule with
  | _ :: w2 :: _ :: _ :: _ :: _ :: w7 :: _ :: _ :: _ :: _ :: _ :: _ :: _ :: w15 :: w16 :: _ =>
    (v.small1 w2 + w7 + v.small0 w15 + w16) :: schedule
  | _ => schedule

@[specialize]
def schedule (block : Bytes) : List W :=
  let words := (Bytes.pieces v.wordBytes block).map fun b => v.ofNat (Bytes.bigEndian b)
  ((v.constants.drop 16).foldl (fun ws _ => v.extend ws) words.reverse).reverse

@[specialize]
def round (s : State W) (constant word : W) : State W :=
  let choice := (s.e &&& s.f) ^^^ (~~~s.e &&& s.g)
  let majority := (s.a &&& s.b) ^^^ (s.a &&& s.c) ^^^ (s.b &&& s.c)
  let t := s.h + v.big1 s.e + choice + constant + word
  ⟨t + (v.big0 s.a + majority), s.a, s.b, s.c, s.d + t, s.e, s.f, s.g⟩

@[specialize]
def compress (hash : List W) (block : Bytes) : List W :=
  match hash with
  | [a, b, c, d, e, f, g, h] =>
    let s := (v.constants.zip (v.schedule block)).foldl (fun s (k, w) => v.round s k w)
      (State.mk a b c d e f g h)
    [a + s.a, b + s.b, c + s.c, d + s.d, e + s.e, f + s.f, g + s.g, h + s.h]
  | other => other

@[specialize]
def hash (message : Bytes) : Bytes :=
  let final := (Bytes.pieces (16 * v.wordBytes) (v.padded message)).foldl v.compress v.initial
  final.flatMap fun w => Bytes.ofNatBig v.wordBytes (v.toNat w)

end Variant

def rotate32 (w : UInt32) (n : UInt32) : UInt32 := (w >>> n) ||| (w <<< (32 - n))

def rotate64 (w : UInt64) (n : UInt64) : UInt64 := (w >>> n) ||| (w <<< (64 - n))

def words32 : Variant UInt32 where
  wordBytes := 4
  ofNat := UInt32.ofNat
  toNat := UInt32.toNat
  constants := (primes.take 64).map fun p => UInt32.ofNat (rootFraction 3 p / UInt32.size)
  initial := (primes.take 8).map fun p => UInt32.ofNat (rootFraction 2 p / UInt32.size)
  big0 w := rotate32 w 2 ^^^ rotate32 w 13 ^^^ rotate32 w 22
  big1 w := rotate32 w 6 ^^^ rotate32 w 11 ^^^ rotate32 w 25
  small0 w := rotate32 w 7 ^^^ rotate32 w 18 ^^^ (w >>> 3)
  small1 w := rotate32 w 17 ^^^ rotate32 w 19 ^^^ (w >>> 10)

def words64 : Variant UInt64 where
  wordBytes := 8
  ofNat := UInt64.ofNat
  toNat := UInt64.toNat
  constants := (primes.take 80).map fun p => UInt64.ofNat (rootFraction 3 p)
  initial := (primes.take 8).map fun p => UInt64.ofNat (rootFraction 2 p)
  big0 w := rotate64 w 28 ^^^ rotate64 w 34 ^^^ rotate64 w 39
  big1 w := rotate64 w 14 ^^^ rotate64 w 18 ^^^ rotate64 w 41
  small0 w := rotate64 w 1 ^^^ rotate64 w 8 ^^^ (w >>> 7)
  small1 w := rotate64 w 19 ^^^ rotate64 w 61 ^^^ (w >>> 6)

def sha256 (message : Bytes) : Bytes := words32.hash message

def sha512 (message : Bytes) : Bytes := words64.hash message

end Stowage.Digest
