/-! Prefix codes for numbered symbols, given by the lengths of the codes alone: shorter codes come
first, and of one length the lower symbol. -/
namespace Stowage.Gzip

inductive CodeTree where
  | empty
  | leaf (symbol : Nat)
  | node (zero one : CodeTree)
deriving Repr

namespace CodeTree

def insert (symbol : Nat) : List Bool → CodeTree → CodeTree
  | [], _ => leaf symbol
  | bit :: path, tree =>
    let (zero, one) :=
      match tree with
      | node zero one => (zero, one)
      | _ => (empty, empty)
    if bit then node zero (insert symbol path one) else node (insert symbol path zero) one

/-- The bits of a code, most significant first. -/
def path (length code : Nat) : List Bool :=
  (List.range length).map fun i => code.testBit (length - 1 - i)

/-- Each code is the one before plus one, with zeros after it where it is longer. -/
def insertAll (length code : Nat) : List (Nat × Nat) → CodeTree → CodeTree
  | [], tree => tree
  | (next, symbol) :: rest, tree =>
    let code := code <<< (next - length)
    insertAll next (code + 1) rest (insert symbol (path next code) tree)

/-- The symbols that have a code, by the length of it. -/
def used (lengths : List Nat) : List (Nat × Nat) :=
  (List.range 16).flatMap fun length =>
    if length = 0 then []
    else (lengths.zipIdx.filter fun (l, _) => l = length)

/-- The share of the codes of 15 bits that the codes take. -/
def weight (lengths : List Nat) : Nat :=
  (lengths.filter (· ≠ 0)).foldl (fun total l => total + 1 <<< (15 - l)) 0

def isLone (lengths : List Nat) : Bool :=
  let given := lengths.filter (· ≠ 0)
  given = [] || given = [1]

/-- A code uses all sequences of bits; no code and one of a single bit may leave some out, where that is
allowed. -/
def ofLengths? (allowLone : Bool) (lengths : List Nat) : Option CodeTree :=
  if weight lengths = 1 <<< 15 || (allowLone && isLone lengths) then
    some (insertAll 0 0 (used lengths) (node empty empty))
  else none

end CodeTree
end Stowage.Gzip
