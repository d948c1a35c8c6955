import Stowage.Bytes
import Stowage.Gzip.Huffman

/-! Decompression of deflate streams, bit by bit. A fault is noticed with the bit that makes it; a
distance that reaches before the first byte finds zeros there. -/
namespace Stowage.Gzip

/-- Why decompression stopped: the input ended, or it cannot go on like this. -/
inductive Stop where
  | ended | corrupt
deriving DecidableEq, Repr

abbrev BitReader := StateT (List Bool) (Except Stop)

namespace Deflate

def stop {α : Type} (s : Stop) : BitReader α := fun _ => .error s

def bit : BitReader Bool := fun
  | [] => .error .ended
  | b :: rest => .ok (b, rest)

/-- A number, least significant bit first. -/
def number : Nat → BitReader Nat
  | 0 => pure 0
  | count + 1 => do
    let b ← bit
    let n ← number count
    return (if b then 1 else 0) + 2 * n

def symbol : CodeTree → BitReader Nat
  | .empty => stop .corrupt
  | .leaf s => pure s
  | .node zero one => do
    if ← bit then symbol one else symbol zero

/-- The start of each class of lengths, and how many bits tell the members apart. -/
def lengthClasses : List (Nat × Nat) :=
  [(3, 0), (4, 0), (5, 0), (6, 0), (7, 0), (8, 0), (9, 0), (10, 0), (11, 1), (13, 1), (15, 1),
   (17, 1), (19, 2), (23, 2), (27, 2), (31, 2), (35, 3), (43, 3), (51, 3), (59, 3), (67, 4),
   (83, 4), (99, 4), (115, 4), (131, 5), (163, 5), (195, 5), (227, 5), (258, 0)]

def distanceClasses : List (Nat × Nat) :=
  [(1, 0), (2, 0), (3, 0), (4, 0), (5, 1), (7, 1), (9, 2), (13, 2), (17, 3), (25, 3), (33, 4),
   (49, 4), (65, 5), (97, 5), (129, 6), (193, 6), (257, 7), (385, 7), (513, 8), (769, 8),
   (1025, 9), (1537, 9), (2049, 10), (3073, 10), (4097, 11), (6145, 11), (8193, 12), (12289, 12),
   (16385, 13), (24577, 13)]

def inClass (classes : List (Nat × Nat)) (index : Nat) : BitReader Nat :=
  match classes[index]? with
  | none => stop .corrupt
  | some (base, bits) => do return base + (← number bits)

/-- Repeats what stands at a distance from the end, which may be repeated itself. -/
def copy (distance : Nat) : Nat → Array UInt8 → Array UInt8
  | 0, out => out
  | count + 1, out =>
    copy distance count (out.push (if distance ≤ out.size then out.getD (out.size - distance) 0 else 0))

structure Codes where
  literals : CodeTree
  distances : CodeTree

/-- Symbols up to the end of the block; each of them takes at least one of the bits counted. -/
def symbols (codes : Codes) : Nat → Array UInt8 → BitReader (Array UInt8)
  | 0, _ => stop .ended
  | count + 1, out => do
    let s ← symbol codes.literals
    if s < 256 then symbols codes count (out.push (UInt8.ofNat s))
    else if s = 256 then return out
    else
      let length ← inClass lengthClasses (s - 257)
      let distance ← inClass distanceClasses (← symbol codes.distances)
      symbols codes count (copy distance length out)

def compressed (codes : Codes) (out : Array UInt8) : BitReader (Array UInt8) := fun bits =>
  symbols codes (bits.length + 1) out bits

def byte : BitReader UInt8 := do return UInt8.ofNat (← number 8)

def bytes : Nat → Array UInt8 → BitReader (Array UInt8)
  | 0, out => pure out
  | count + 1, out => do bytes count (out.push (← byte))

/-- Drops the rest of a byte. -/
def align : BitReader Unit := fun bits => .ok ((), bits.drop (bits.length % 8))

/-- A length and its complement, and then so many bytes. -/
def stored (out : Array UInt8) : BitReader (Array UInt8) := do
  align
  let length ← number 16
  let complement ← number 16
  if length + complement = 0xffff then bytes length out else stop .corrupt

def fixedLengths : List Nat :=
  List.replicate 144 8 ++ List.replicate 112 9 ++ List.replicate 24 7 ++ List.replicate 8 8

def codesOf (literals distances : List Nat) : BitReader Codes :=
  match CodeTree.ofLengths? true literals, CodeTree.ofLengths? true distances with
  | some literals, some distances => pure ⟨literals, distances⟩
  | _, _ => stop .corrupt

def fixedCodes : Codes :=
  ⟨(CodeTree.ofLengths? true fixedLengths).getD .empty,
   (CodeTree.ofLengths? true (List.replicate 32 5)).getD .empty⟩

/-- The order in which the lengths of the codes for lengths are given. -/
def lengthOrder : List Nat := [16, 17, 18, 0, 8, 7, 9, 6, 10, 5, 11, 4, 12, 3, 13, 2, 14, 1, 15]

def lengthsOfLengths (given : List Nat) : List Nat :=
  (List.range 19).map fun s => given.getD (lengthOrder.idxOf s) 0

def numbers (size : Nat) : Nat → BitReader (List Nat)
  | 0 => pure []
  | count + 1 => do
    let n ← number size
    return n :: (← numbers size count)

/-- So many lengths of codes, with the last one first: a length, or a run of one. -/
def codeLengths (tree : CodeTree) (total : Nat) : Nat → List Nat → BitReader (List Nat)
  | 0, _ => stop .ended
  | count + 1, seen => do
    if total = seen.length then return seen
    else if total < seen.length then stop .corrupt
    else
      let s ← symbol tree
      if s < 16 then codeLengths tree total count (s :: seen)
      else if s = 16 then
        match seen with
        | [] => stop .corrupt
        | last :: _ => do
          codeLengths tree total count (List.replicate (3 + (← number 2)) last ++ seen)
      else if s = 17 then
        codeLengths tree total count (List.replicate (3 + (← number 3)) 0 ++ seen)
      else codeLengths tree total count (List.replicate (11 + (← number 7)) 0 ++ seen)

/-- The codes that stand before a block. -/
def ownCodes : BitReader Codes := do
  let literals := 257 + (← number 5)
  let distances := 1 + (← number 5)
  let given := 4 + (← number 4)
  if 286 < literals ∨ 30 < distances then stop .corrupt
  else
    match CodeTree.ofLengths? false (lengthsOfLengths (← numbers 3 given)) with
    | none => stop .corrupt
    | some tree => do
      let total := literals + distances
      let lengths := (← codeLengths tree total (total + 1) []).reverse
      codesOf (lengths.take literals) (lengths.drop literals)

/-- Blocks up to the last; each of them takes at least one of the bits counted. -/
def blocks : Nat → Array UInt8 → BitReader (Array UInt8)
  | 0, _ => stop .ended
  | count + 1, out => do
    let last ← bit
    let kind ← number 2
    let out ←
      if kind = 0 then stored out
      else if kind = 1 then compressed fixedCodes out
      else if kind = 2 then do compressed (← ownCodes) out
      else stop .corrupt
    if last then return out else blocks count out

/-- The bits of bytes, least significant first. -/
def bitsOf (data : Bytes) : List Bool :=
  data.flatMap fun b => (List.range 8).map fun i => b.toNat.testBit i

/-- Decompresses a stream, and gives what follows its last byte. -/
def inflate (data : Bytes) : Except Stop (Bytes × Bytes) := do
  let bits := bitsOf data
  let (out, rest) ← blocks (bits.length + 1) #[] bits
  return (out.toList, data.drop (data.length - rest.length / 8))

end Deflate
end Stowage.Gzip
