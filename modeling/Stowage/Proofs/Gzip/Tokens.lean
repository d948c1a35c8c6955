import Stowage.Proofs.Gzip.Huffman

/-! What the symbols of a block stand for: bytes, and repetitions of bytes that stand before them. What is written as
the codes of such symbols is read as what they stand for. -/
namespace Stowage.Gzip.Deflate

/-- Such bits are read as a value, whatever follows them. -/
def Reads {α : Type} (r : BitReader α) (bits : List Bool) (a : α) : Prop :=
  ∀ rest, r (bits ++ rest) = .ok (a, rest)

section Reading

variable {α β : Type} {r : BitReader α} {f : α → BitReader β} {bits more : List Bool} {a : α} {b : β}

theorem bind_of_ok {all left : List Bool} (read : r all = .ok (a, left)) : (r >>= f) all = f a left := by
  change (r all >>= fun read => f read.1 read.2) = _
  rw [read]
  rfl

theorem bind_of_error {all : List Bool} {s : Stop} (stopped : r all = .error s) : (r >>= f) all = .error s := by
  change (r all >>= fun read => f read.1 read.2) = _
  rw [stopped]
  rfl

theorem reads_pure (a : α) : Reads (pure a) [] a := fun _ => rfl

theorem Reads.bind (first : Reads r bits a) (next : Reads (f a) more b) : Reads (r >>= f) (bits ++ more) b := by
  intro rest
  rw [List.append_assoc, bind_of_ok (first _)]
  exact next rest

/-- What is read at last may be put in another form. -/
theorem Reads.map (first : Reads r bits a) (g : α → β) : Reads (do return g (← r)) bits (g a) := by
  have whole : Reads (r >>= fun a => pure (g a)) (bits ++ []) (g a) := first.bind (reads_pure (g a))
  rwa [List.append_nil] at whole

def Stops (r : BitReader α) (bits : List Bool) (s : Stop) : Prop := ∀ rest, r (bits ++ rest) = .error s

theorem Reads.stops {s : Stop} (first : Reads r bits a) (next : Stops (f a) more s) :
    Stops (r >>= f) (bits ++ more) s := by
  intro rest
  rw [List.append_assoc, bind_of_ok (first _)]
  exact next rest

theorem Stops.bind {s : Stop} (first : Stops r bits s) (more : List Bool) : Stops (r >>= f) (bits ++ more) s := by
  intro rest
  rw [List.append_assoc, bind_of_error (first _)]

theorem reads_bit (b : Bool) : Reads bit [b] b := fun _ => rfl

theorem reads_symbol {tree : CodeTree} {p : List Bool} {s : Nat} (leads : tree.Leads p s) :
    Reads (symbol tree) p s := leads.symbol

end Reading

def numberBits (count n : Nat) : List Bool := (List.range count).map n.testBit

@[simp] theorem length_numberBits (count n : Nat) : (numberBits count n).length = count := by simp [numberBits]

theorem numberBits_succ (count n : Nat) : numberBits (count + 1) n = n.testBit 0 :: numberBits count (n / 2) := by
  rw [numberBits, List.range_succ_eq_map, List.map_cons, List.map_map, numberBits]
  congr 1
  apply List.map_congr_left
  intro i _
  exact Nat.testBit_succ n i

theorem reads_number {count n : Nat} (small : n < 2 ^ count) : Reads (number count) (numberBits count n) n := by
  induction count generalizing n with
  | zero =>
    have none : n = 0 := by omega
    rw [none]
    exact reads_pure 0
  | succ count ih =>
    have half : n / 2 < 2 ^ count := by omega
    have parity : (if n.testBit 0 then 1 else 0) + 2 * (n / 2) = n := by
      rw [Nat.testBit_zero]
      rcases Nat.mod_two_eq_zero_or_one n with even | odd
      · simp [even]
        omega
      · simp [odd]
        omega
    have rest : Reads (do return (if n.testBit 0 then 1 else 0) + 2 * (← number count)) (numberBits count (n / 2)) n := by
      have read := (ih half).map fun m => (if n.testBit 0 then 1 else 0) + 2 * m
      rwa [parity] at read
    rw [numberBits_succ]
    exact (reads_bit (n.testBit 0)).bind (f := fun b => do return (if b then 1 else 0) + 2 * (← number count)) rest

/-- A value of a class, by the class and its place within it. -/
structure Choice where
  index : Nat
  extra : Nat
deriving DecidableEq, Repr

namespace Choice

variable (classes : List (Nat × Nat)) (c : Choice)

def value : Nat := (classes.getD c.index (0, 0)).1 + c.extra

def bits : List Bool := numberBits (classes.getD c.index (0, 0)).2 c.extra

structure Fits : Prop where
  index : c.index < classes.length
  extra : c.extra < 2 ^ (classes.getD c.index (0, 0)).2

instance : Decidable (c.Fits classes) :=
  decidable_of_iff (c.index < classes.length ∧ c.extra < 2 ^ (classes.getD c.index (0, 0)).2)
    ⟨fun ⟨index, extra⟩ => ⟨index, extra⟩, fun ⟨index, extra⟩ => ⟨index, extra⟩⟩

variable {classes c} in
theorem Fits.reads (fits : c.Fits classes) :
    Reads (inClass classes c.index) (c.bits classes) (c.value classes) := by
  have found : classes[c.index]? = some (classes.getD c.index (0, 0)) := by
    rw [List.getD_eq_getElem _ _ fits.index, List.getElem?_eq_getElem fits.index]
  rw [inClass, found]
  exact (reads_number fits.extra).map fun n => (classes.getD c.index (0, 0)).1 + n

end Choice

inductive Token where
  | literal (byte : UInt8)
  | copy (length distance : Choice)
deriving DecidableEq, Repr

/-- So many bytes, as they stand at a distance from the end, over and over again. -/
def repeated (out : Bytes) (distance length : Nat) : Bytes :=
  (List.range length).map fun i => out.getD (out.length - distance + i % distance) 0

@[simp] theorem length_repeated (out : Bytes) (distance length : Nat) : (repeated out distance length).length = length := by
  simp [repeated]

/-- The byte at the distance is the next one of the repetition. -/
theorem getD_repeated {out : Bytes} {distance : Nat} (far : 0 < distance) (near : distance ≤ out.length) (done : Nat) :
    (out ++ repeated out distance done).getD (out.length + done - distance) 0 =
      out.getD (out.length - distance + done % distance) 0 := by
  by_cases fresh : done < distance
  · rw [List.getD_append _ _ _ _ (by omega), Nat.mod_eq_of_lt fresh]
    congr 1
    omega
  · have place : out.length + done - distance - out.length = done - distance := by omega
    rw [List.getD_append_right _ _ _ _ (by omega), place, repeated, List.getD_eq_getElem _ _ (by simp; omega),
      List.getElem_map, List.getElem_range, ← Nat.mod_eq_sub_mod (by omega)]

theorem copy_repeated {out : Bytes} {distance : Nat} (far : 0 < distance) (near : distance ≤ out.length)
    (count done : Nat) : copy distance count (out ++ repeated out distance done).toArray =
      (out ++ repeated out distance (done + count)).toArray := by
  induction count generalizing done with
  | zero => rfl
  | succ count ih =>
    have next := getD_repeated far near done
    have grown : (out ++ repeated out distance (done + 1)).toArray =
        (out ++ repeated out distance done).toArray.push (out.getD (out.length - distance + done % distance) 0) := by
      rw [List.push_toArray, repeated, List.range_succ, List.map_append, List.append_assoc]
      rfl
    have size : (out ++ repeated out distance done).toArray.size = out.length + done := by simp
    rw [copy, size, if_pos (by omega), show done + (count + 1) = done + 1 + count by omega, ← ih, grown, ← next,
      Array.getD_eq_getD_getElem?, List.getElem?_toArray, List.getD_eq_getElem?_getD]

/-- What is done with a symbol. -/
theorem symbols_succ (codes : Codes) (count : Nat) (out : Array UInt8) :
    symbols codes (count + 1) out = symbol codes.literals >>= fun s =>
      if s < 256 then symbols codes count (out.push (UInt8.ofNat s))
      else if s = 256 then pure out
      else inClass lengthClasses (s - 257) >>= fun length => symbol codes.distances >>= fun d =>
        inClass distanceClasses d >>= fun distance => symbols codes count (copy distance length out) := rfl

structure Codes.Of (codes : Codes) (literals distances : List Nat) : Prop where
  literals : ∀ s, literals.getD s 0 ≠ 0 → codes.literals.Leads (CodeTree.code literals s) s
  distances : ∀ s, distances.getD s 0 ≠ 0 → codes.distances.Leads (CodeTree.code distances s) s

namespace Token

variable (literals distances : List Nat)

def bits : Token → List Bool
  | literal b => CodeTree.code literals b.toNat
  | copy l d => CodeTree.code literals (257 + l.index) ++ (l.bits lengthClasses ++
      (CodeTree.code distances d.index ++ d.bits distanceClasses))

def extend (out : Bytes) : Token → Bytes
  | literal b => out ++ [b]
  | copy l d => out ++ repeated out (d.value distanceClasses) (l.value lengthClasses)

/-- Its symbols have codes, and a copy is of bytes that are there. -/
def Fits (size : Nat) : Token → Prop
  | literal b => literals.getD b.toNat 0 ≠ 0
  | copy l d => literals.getD (257 + l.index) 0 ≠ 0 ∧ l.Fits lengthClasses ∧
      distances.getD d.index 0 ≠ 0 ∧ d.Fits distanceClasses ∧ d.value distanceClasses ≤ size

def extendAll (out : Bytes) (tokens : List Token) : Bytes := tokens.foldl extend out

def allBits (tokens : List Token) : List Bool :=
  tokens.flatMap (bits literals distances) ++ CodeTree.code literals 256

def AllFit : Bytes → List Token → Prop
  | _, [] => literals.getD 256 0 ≠ 0
  | out, token :: tokens => token.Fits literals distances out.length ∧ AllFit (token.extend out) tokens

instance (size : Nat) : (token : Token) → Decidable (token.Fits literals distances size)
  | literal _ => inferInstanceAs (Decidable (_ ≠ 0))
  | copy .. => inferInstanceAs (Decidable (_ ≠ 0 ∧ _ ∧ _ ≠ 0 ∧ _ ∧ _ ≤ size))

instance decidableAllFit : (out : Bytes) → (tokens : List Token) → Decidable (AllFit literals distances out tokens)
  | _, [] => inferInstanceAs (Decidable (_ ≠ 0))
  | out, token :: tokens =>
    have := decidableAllFit (token.extend out) tokens
    inferInstanceAs (Decidable (token.Fits literals distances out.length ∧ _))

theorem code_ne_nil {lengths : List Nat} {s : Nat} (coded : lengths.getD s 0 ≠ 0) :
    CodeTree.code lengths s ≠ [] := by
  rw [← List.length_pos_iff, CodeTree.code, CodeTree.length_path]
  omega

/-- There is no distance of zero. -/
theorem distance_pos {d : Choice} (fits : d.Fits distanceClasses) : 0 < d.value distanceClasses := by
  have bases : ∀ i < distanceClasses.length, 0 < (distanceClasses.getD i (0, 0)).1 := by decide
  have := bases d.index fits.index
  rw [Choice.value]
  omega

variable {literals distances} {codes : Codes}

/-- A token is read, and what follows it is read behind its bytes. -/
theorem Fits.reads (of : codes.Of literals distances) {out : Bytes} {token : Token}
    (fits : token.Fits literals distances out.length) (count : Nat) {more : List Bool} {result : Array UInt8}
    (rest : Reads (symbols codes count (token.extend out).toArray) more result) :
    Reads (symbols codes (count + 1) out.toArray) (token.bits literals distances ++ more) result := by
  rw [symbols_succ]
  cases token with
  | literal b =>
    refine (reads_symbol (of.literals _ fits)).bind ?_
    rw [if_pos b.toNat_lt, UInt8.ofNat_toNat, List.push_toArray]
    exact rest
  | copy l d =>
    obtain ⟨codedLength, length, codedDistance, distance, near⟩ := fits
    have copied := copy_repeated (distance_pos distance) near (l.value lengthClasses) 0
    simp only [repeated, List.range_zero, List.map_nil, List.append_nil, Nat.zero_add] at copied
    rw [bits, List.append_assoc, List.append_assoc, List.append_assoc]
    refine (reads_symbol (of.literals _ codedLength)).bind ?_
    rw [if_neg (by omega), if_neg (by omega), Nat.add_sub_cancel_left]
    refine length.reads.bind ?_
    refine (reads_symbol (of.distances _ codedDistance)).bind ?_
    refine distance.reads.bind ?_
    rw [copied]
    exact rest

theorem bits_ne_nil {size : Nat} {token : Token} (fits : token.Fits literals distances size) :
    token.bits literals distances ≠ [] := by
  cases token with
  | literal b => exact code_ne_nil fits
  | copy l d => simp [bits, code_ne_nil fits.1]

/-- The tokens of a block are read to its end, if there are as many turns as tokens, and one more. -/
theorem AllFit.reads (of : codes.Of literals distances) {out : Bytes} {tokens : List Token}
    (fit : AllFit literals distances out tokens) {count : Nat} (enough : tokens.length < count) :
    Reads (symbols codes count out.toArray) (allBits literals distances tokens) (extendAll out tokens).toArray := by
  obtain ⟨count, rfl⟩ : ∃ n, count = n + 1 := ⟨count - 1, by omega⟩
  induction tokens generalizing out count with
  | nil =>
    rw [symbols_succ, allBits, List.flatMap_nil, List.nil_append, ← List.append_nil (CodeTree.code _ _)]
    refine (reads_symbol (of.literals _ fit)).bind ?_
    exact reads_pure _
  | cons token tokens ih =>
    obtain ⟨count, rfl⟩ : ∃ n, count = n + 1 := ⟨count - 1, by rw [List.length_cons] at enough; omega⟩
    rw [allBits, List.flatMap_cons, List.append_assoc]
    exact fit.1.reads of (count + 1) (ih fit.2 count (by simpa using enough))

theorem AllFit.length_lt {out : Bytes} {tokens : List Token} (fit : AllFit literals distances out tokens) :
    tokens.length < (allBits literals distances tokens).length := by
  induction tokens generalizing out with
  | nil => exact List.length_pos_iff.mpr (by simpa [allBits] using code_ne_nil fit)
  | cons token tokens ih =>
    have some := List.length_pos_iff.mpr (bits_ne_nil fit.1)
    have := ih fit.2
    rw [allBits, List.length_append] at *
    rw [List.flatMap_cons, List.length_append, List.length_cons]
    omega

theorem AllFit.compressed (of : codes.Of literals distances) {out : Bytes} {tokens : List Token}
    (fit : AllFit literals distances out tokens) :
    Reads (compressed codes out.toArray) (allBits literals distances tokens) (extendAll out tokens).toArray := by
  intro rest
  have short := fit.length_lt
  have turns : tokens.length < (allBits literals distances tokens ++ rest).length + 1 := by
    rw [List.length_append]
    omega
  exact fit.reads of turns rest

end Token

end Stowage.Gzip.Deflate
