import Stowage.Proofs.Gzip.Tokens

/-! Blocks of a deflate stream: bytes as they are, or tokens in fixed codes, or in codes that stand before them. A stream
is read as what its blocks stand for, except that a block with too many codes for distances is refused. -/
namespace Stowage.Gzip.Deflate

inductive Run where
  | length (n : Nat)
  | again (more : Nat)
  | zeros (more : Nat)
  | manyZeros (more : Nat)
deriving DecidableEq, Repr

namespace Run

def symbol : Run → Nat
  | length n => n
  | again _ => 16
  | zeros _ => 17
  | manyZeros _ => 18

def extra : Run → List Bool
  | length _ => []
  | again more => numberBits 2 more
  | zeros more => numberBits 3 more
  | manyZeros more => numberBits 7 more

/-- Lengths with those of a run, the last one first. -/
def extend (seen : List Nat) : Run → List Nat
  | length n => n :: seen
  | again more => List.replicate (3 + more) (seen.headD 0) ++ seen
  | zeros more => List.replicate (3 + more) 0 ++ seen
  | manyZeros more => List.replicate (11 + more) 0 ++ seen

variable (lengths : List Nat)

def bits (r : Run) : List Bool := CodeTree.code lengths r.symbol ++ r.extra

def Fits (seen : List Nat) (r : Run) : Prop :=
  lengths.getD r.symbol 0 ≠ 0 ∧
    match r with
    | length n => n < 16
    | again more => seen ≠ [] ∧ more < 2 ^ 2
    | zeros more => more < 2 ^ 3
    | manyZeros more => more < 2 ^ 7

def AllFit (total : Nat) : List Nat → List Run → Prop
  | seen, [] => seen.length = total
  | seen, r :: runs => r.Fits lengths seen ∧ AllFit total (r.extend seen) runs

instance (seen : List Nat) : (r : Run) → Decidable (r.Fits lengths seen)
  | length n => inferInstanceAs (Decidable (_ ≠ 0 ∧ n < 16))
  | again more => inferInstanceAs (Decidable (_ ≠ 0 ∧ seen ≠ [] ∧ more < 2 ^ 2))
  | zeros more => inferInstanceAs (Decidable (_ ≠ 0 ∧ more < 2 ^ 3))
  | manyZeros more => inferInstanceAs (Decidable (_ ≠ 0 ∧ more < 2 ^ 7))

instance decidableAllFit (total : Nat) :
    (seen : List Nat) → (runs : List Run) → Decidable (AllFit lengths total seen runs)
  | seen, [] => inferInstanceAs (Decidable (seen.length = total))
  | seen, r :: runs =>
    have := decidableAllFit total (r.extend seen) runs
    inferInstanceAs (Decidable (r.Fits lengths seen ∧ _))

variable {lengths} {total : Nat} {tree : CodeTree}

theorem length_extend (seen : List Nat) (r : Run) : seen.length < (r.extend seen).length := by
  cases r <;> simp only [extend, List.length_cons, List.length_append, List.length_replicate] <;> omega

theorem AllFit.length_le {seen : List Nat} {runs : List Run} (fit : AllFit lengths total seen runs) :
    seen.length + runs.length ≤ total := by
  induction runs generalizing seen with
  | nil => exact Nat.le_of_eq fit
  | cons r runs ih =>
    have longer := length_extend seen r
    have := ih fit.2
    rw [List.length_cons]
    omega

/-- The lengths that are still due are read run by run. -/
theorem codeLengths_succ (tree : CodeTree) {total count : Nat} {seen : List Nat} : seen.length < total →
    codeLengths tree total (count + 1) seen = Deflate.symbol tree >>= fun s =>
      if s < 16 then codeLengths tree total count (s :: seen)
      else if s = 16 then
        match seen with
        | [] => stop .corrupt
        | last :: _ => number 2 >>= fun n => codeLengths tree total count (List.replicate (3 + n) last ++ seen)
      else if s = 17 then
        number 3 >>= fun n => codeLengths tree total count (List.replicate (3 + n) 0 ++ seen)
      else number 7 >>= fun n => codeLengths tree total count (List.replicate (11 + n) 0 ++ seen) := by
  intro short
  conv => lhs; unfold codeLengths
  exact (if_neg (Nat.ne_of_gt short)).trans (if_neg (Nat.lt_asymm short))

theorem Fits.reads (leads : ∀ s, lengths.getD s 0 ≠ 0 → tree.Leads (CodeTree.code lengths s) s) {seen : List Nat}
    {r : Run} (fits : r.Fits lengths seen) (short : seen.length < total) {count : Nat} {more : List Bool}
    {result : List Nat} (rest : Reads (codeLengths tree total count (r.extend seen)) more result) :
    Reads (codeLengths tree total (count + 1) seen) (r.bits lengths ++ more) result := by
  rw [codeLengths_succ tree short, bits, List.append_assoc]
  refine (reads_symbol (leads _ fits.1)).bind ?_
  obtain ⟨-, fits⟩ := fits
  cases r with
  | length n =>
    rw [symbol, if_pos fits]
    exact rest
  | again n =>
    obtain ⟨some, small⟩ := fits
    obtain ⟨last, seen, rfl⟩ := List.exists_cons_of_ne_nil some
    exact (reads_number small).bind rest
  | zeros n => exact (reads_number fits).bind rest
  | manyZeros n => exact (reads_number fits).bind rest

theorem AllFit.reads (leads : ∀ s, lengths.getD s 0 ≠ 0 → tree.Leads (CodeTree.code lengths s) s) {seen : List Nat}
    {runs : List Run} (fit : AllFit lengths total seen runs) {count : Nat} (enough : runs.length < count) :
    Reads (codeLengths tree total count seen) (runs.flatMap (bits lengths)) (runs.foldl extend seen) := by
  obtain ⟨count, rfl⟩ : ∃ n, count = n + 1 := ⟨count - 1, by omega⟩
  induction runs generalizing seen count with
  | nil =>
    unfold codeLengths
    rw [if_pos fit.symm]
    exact reads_pure seen
  | cons r runs ih =>
    obtain ⟨count, rfl⟩ : ∃ n, count = n + 1 := ⟨count - 1, by rw [List.length_cons] at enough; omega⟩
    have longer := length_extend seen r
    have := fit.2.length_le
    exact fit.1.reads leads (by omega) (ih fit.2 count (by simpa using enough))

end Run

theorem reads_numbers {size : Nat} {ns : List Nat} (small : ∀ n ∈ ns, n < 2 ^ size) :
    Reads (numbers size ns.length) (ns.flatMap (numberBits size)) ns := by
  induction ns with
  | nil => exact reads_pure []
  | cons n ns ih =>
    have rest := ih fun m member => small m (List.mem_cons_of_mem n member)
    exact (reads_number (small n List.mem_cons_self)).bind (rest.map fun ns => n :: ns)

structure Table where
  literals : Nat
  distances : Nat
  /-- The lengths of the codes for lengths. -/
  given : List Nat
  runs : List Run
deriving DecidableEq, Repr

namespace Table

def lengths (t : Table) : List Nat := (t.runs.foldl Run.extend []).reverse

def literalLengths (t : Table) : List Nat := t.lengths.take t.literals

def distanceLengths (t : Table) : List Nat := t.lengths.drop t.literals

def bits (t : Table) : List Bool :=
  numberBits 5 (t.literals - 257) ++ (numberBits 5 (t.distances - 1) ++ (numberBits 4 (t.given.length - 4) ++
    (t.given.flatMap (numberBits 3) ++ t.runs.flatMap (Run.bits (lengthsOfLengths t.given)))))

/-- The format has 30 distances, and lets a table have codes for two more. -/
structure Fits (t : Table) : Prop where
  literals : 257 ≤ t.literals ∧ t.literals ≤ 286
  distances : 1 ≤ t.distances ∧ t.distances ≤ 32
  given : 4 ≤ t.given.length ∧ t.given.length ≤ 19
  small : ∀ n ∈ t.given, n < 2 ^ 3
  ofLengths : CodeTree.Sound false (lengthsOfLengths t.given)
  runs : Run.AllFit (lengthsOfLengths t.given) (t.literals + t.distances) [] t.runs
  ofLiterals : CodeTree.Sound true t.literalLengths
  ofDistances : CodeTree.Sound true t.distanceLengths

instance (t : Table) : Decidable t.Fits :=
  decidable_of_iff ((257 ≤ t.literals ∧ t.literals ≤ 286) ∧ (1 ≤ t.distances ∧ t.distances ≤ 32) ∧
    (4 ≤ t.given.length ∧ t.given.length ≤ 19) ∧ (∀ n ∈ t.given, n < 2 ^ 3) ∧
    CodeTree.Sound false (lengthsOfLengths t.given) ∧
    Run.AllFit (lengthsOfLengths t.given) (t.literals + t.distances) [] t.runs ∧
    CodeTree.Sound true t.literalLengths ∧ CodeTree.Sound true t.distanceLengths)
    ⟨fun ⟨a, b, c, d, e, f, g, h⟩ => ⟨a, b, c, d, e, f, g, h⟩, fun ⟨a, b, c, d, e, f, g, h⟩ => ⟨a, b, c, d, e, f, g, h⟩⟩

end Table

theorem codesOf_eq {literals distances : List Nat} (first : CodeTree.Sound true literals)
    (second : CodeTree.Sound true distances) :
    ∃ codes : Codes, codes.Of literals distances ∧ codesOf literals distances = pure codes := by
  obtain ⟨literalTree, made, leads⟩ := first.tree
  obtain ⟨distanceTree, made', leads'⟩ := second.tree
  refine ⟨⟨literalTree, distanceTree⟩, ⟨leads, leads'⟩, ?_⟩
  rw [codesOf, made, made']

theorem ownCodes_eq : ownCodes = number 5 >>= fun a => number 5 >>= fun b => number 4 >>= fun c =>
    if 286 < 257 + a ∨ 30 < 1 + b then stop .corrupt
    else numbers 3 (4 + c) >>= fun given =>
      match CodeTree.ofLengths? false (lengthsOfLengths given) with
      | none => stop .corrupt
      | some tree =>
        codeLengths tree (257 + a + (1 + b)) (257 + a + (1 + b) + 1) [] >>= fun lengths =>
          codesOf (lengths.reverse.take (257 + a)) (lengths.reverse.drop (257 + a)) := rfl

/-- A table is read as its codes, if it has no more of them than there are distances. -/
theorem Table.Fits.reads {t : Table} (fits : t.Fits) (narrow : t.distances ≤ 30) :
    ∃ codes : Codes, codes.Of t.literalLengths t.distanceLengths ∧ Reads ownCodes t.bits codes := by
  obtain ⟨codes, of, coded⟩ := codesOf_eq fits.ofLiterals fits.ofDistances
  obtain ⟨tree, made, leads⟩ := fits.ofLengths.tree
  obtain ⟨some, many⟩ := fits.literals
  obtain ⟨one, few⟩ := fits.distances
  obtain ⟨four, all⟩ := fits.given
  have turns : t.runs.length < t.literals + t.distances + 1 := by
    have := fits.runs.length_le
    rw [List.length_nil] at this
    omega
  refine ⟨codes, of, ?_⟩
  rw [ownCodes_eq, Table.bits]
  refine (reads_number (by omega)).bind ?_
  refine (reads_number (by omega)).bind ?_
  refine (reads_number (by omega)).bind ?_
  rw [Nat.add_sub_cancel' some, Nat.add_sub_cancel' one, Nat.add_sub_cancel' four, if_neg (by omega)]
  refine (reads_numbers fits.small).bind ?_
  rw [made, ← List.append_nil (t.runs.flatMap _)]
  refine (fits.runs.reads leads turns).bind ?_
  change Reads (codesOf t.literalLengths t.distanceLengths) [] codes
  rw [coded]
  exact reads_pure codes

theorem Table.Fits.stops {t : Table} (fits : t.Fits) (wide : 30 < t.distances) : Stops ownCodes t.bits .corrupt := by
  obtain ⟨some, many⟩ := fits.literals
  obtain ⟨one, few⟩ := fits.distances
  obtain ⟨four, all⟩ := fits.given
  rw [ownCodes_eq, Table.bits]
  refine (reads_number (by omega)).stops ?_
  refine (reads_number (by omega)).stops ?_
  refine (reads_number (by omega)).stops ?_
  rw [if_pos (by omega)]
  exact fun _ => rfl

section Positions

variable {α β : Type}

/-- Such bits are read as a value where they stand behind so many, if the bits behind them end with a byte. -/
def ReadsAt (place : Nat) (r : BitReader α) (bits : List Bool) (a : α) : Prop :=
  ∀ rest, (place + bits.length + rest.length) % 8 = 0 → r (bits ++ rest) = .ok (a, rest)

def StopsAt (place : Nat) (r : BitReader α) (bits : List Bool) (s : Stop) : Prop :=
  ∀ rest, (place + bits.length + rest.length) % 8 = 0 → r (bits ++ rest) = .error s

variable {place : Nat} {r : BitReader α} {f : α → BitReader β} {bits more : List Bool} {a : α} {b : β} {s : Stop}

theorem Reads.at (reads : Reads r bits a) : ReadsAt place r bits a := fun rest _ => reads rest

theorem Stops.at (stops : Stops r bits s) : StopsAt place r bits s := fun rest _ => stops rest

theorem ReadsAt.bind (first : ReadsAt place r bits a) (next : ReadsAt (place + bits.length) (f a) more b) :
    ReadsAt place (r >>= f) (bits ++ more) b := by
  intro rest whole
  rw [List.length_append] at whole
  rw [List.append_assoc, bind_of_ok (first _ (by rw [List.length_append]; omega))]
  exact next rest (by omega)

theorem ReadsAt.stops (first : ReadsAt place r bits a) (next : StopsAt (place + bits.length) (f a) more s) :
    StopsAt place (r >>= f) (bits ++ more) s := by
  intro rest whole
  rw [List.length_append] at whole
  rw [List.append_assoc, bind_of_ok (first _ (by rw [List.length_append]; omega))]
  exact next rest (by omega)

theorem StopsAt.bind (first : StopsAt place r bits s) (more : List Bool) :
    StopsAt place (r >>= f) (bits ++ more) s := by
  intro rest whole
  rw [List.length_append] at whole
  rw [List.append_assoc, bind_of_error (first _ (by rw [List.length_append]; omega))]

/-- The rest of a byte is dropped. -/
theorem reads_align {filler : List Bool} (short : filler.length < 8) (full : (place + filler.length) % 8 = 0) :
    ReadsAt place align filler () := by
  intro rest whole
  have left : (filler ++ rest).length % 8 = filler.length := by
    rw [List.length_append]
    omega
  rw [align, left, List.drop_left]

end Positions

theorem reads_byte (b : UInt8) : Reads byte (numberBits 8 b.toNat) b := by
  have read := (reads_number b.toNat_lt).map UInt8.ofNat
  rwa [UInt8.ofNat_toNat] at read

theorem bitsOf_cons (b : UInt8) (data : Bytes) : bitsOf (b :: data) = numberBits 8 b.toNat ++ bitsOf data := rfl

@[simp] theorem bitsOf_append (first second : Bytes) : bitsOf (first ++ second) = bitsOf first ++ bitsOf second :=
  List.flatMap_append

@[simp] theorem length_bitsOf (data : Bytes) : (bitsOf data).length = 8 * data.length := by
  induction data with
  | nil => rfl
  | cons b data ih =>
    rw [bitsOf_cons, List.length_append, ih, length_numberBits, List.length_cons]
    omega

theorem reads_bytes (out data : Bytes) :
    Reads (bytes data.length out.toArray) (bitsOf data) (out ++ data).toArray := by
  induction data generalizing out with
  | nil =>
    rw [List.append_nil]
    exact reads_pure out.toArray
  | cons b data ih =>
    have next := ih (out ++ [b])
    rw [List.append_assoc, ← List.push_toArray] at next
    exact (reads_byte b).bind next

inductive Block where
  /-- Bytes as they are, behind what is left of a byte. -/
  | stored (filler : List Bool) (data : Bytes)
  | fixed (tokens : List Token)
  | dynamic (table : Table) (tokens : List Token)
deriving DecidableEq, Repr

def fixedDistances : List Nat := List.replicate 32 5

namespace Block

def bits : Block → List Bool
  | stored filler data => numberBits 2 0 ++ (filler ++ (numberBits 16 data.length ++
      (numberBits 16 (0xffff - data.length) ++ bitsOf data)))
  | fixed tokens => numberBits 2 1 ++ Token.allBits fixedLengths fixedDistances tokens
  | dynamic t tokens => numberBits 2 2 ++ (t.bits ++ Token.allBits t.literalLengths t.distanceLengths tokens)

def extend (out : Bytes) : Block → Bytes
  | stored _ data => out ++ data
  | fixed tokens | dynamic _ tokens => Token.extendAll out tokens

/-- A block can be written behind so many bits and such bytes; its first bit tells whether it is the last one. -/
def Fits (place : Nat) (out : Bytes) : Block → Prop
  | stored filler data => filler.length < 8 ∧ (place + 3 + filler.length) % 8 = 0 ∧ data.length ≤ 0xffff
  | fixed tokens => Token.AllFit fixedLengths fixedDistances out tokens
  | dynamic t tokens => t.Fits ∧ Token.AllFit t.literalLengths t.distanceLengths out tokens

instance (place : Nat) (out : Bytes) : (b : Block) → Decidable (b.Fits place out)
  | stored .. => inferInstanceAs (Decidable (_ < 8 ∧ _ = 0 ∧ _ ≤ 0xffff))
  | fixed tokens => inferInstanceAs (Decidable (Token.AllFit fixedLengths fixedDistances out tokens))
  | dynamic t tokens =>
    inferInstanceAs (Decidable (t.Fits ∧ Token.AllFit t.literalLengths t.distanceLengths out tokens))

/-- There are codes for no more distances than the format has. -/
def Narrow : Block → Prop
  | stored .. | fixed _ => True
  | dynamic t _ => t.distances ≤ 30

end Block

def content (out : Array UInt8) : BitReader (Array UInt8) := number 2 >>= fun kind =>
  if kind = 0 then stored out
  else if kind = 1 then compressed fixedCodes out
  else if kind = 2 then ownCodes >>= fun codes => compressed codes out
  else stop .corrupt

theorem blocks_succ (count : Nat) (out : Array UInt8) :
    blocks (count + 1) out = bit >>= fun last => content out >>= fun out =>
      if last then pure out else blocks count out := by
  conv => lhs; unfold blocks
  refine congrArg (bit >>= ·) (funext fun last => ?_)
  rw [content, bind_assoc]
  refine congrArg (number 2 >>= ·) (funext fun kind => ?_)
  by_cases plain : kind = 0
  · simp only [plain, if_true]
  by_cases fixed : kind = 1
  · simp only [fixed, Nat.one_ne_zero, if_true, if_false]
  by_cases own : kind = 2
  · simp only [plain, fixed, if_false]
    simp only [own, if_true, bind_assoc]
  · simp only [plain, fixed, own, if_false]

theorem stored_eq (out : Array UInt8) : stored out = align >>= fun _ => number 16 >>= fun length =>
    number 16 >>= fun complement =>
      if length + complement = 0xffff then bytes length out else stop .corrupt := rfl

theorem fixed_of : fixedCodes.Of fixedLengths fixedDistances := by
  have first : CodeTree.Sound true fixedLengths := ⟨by decide +kernel, .inl (by decide +kernel)⟩
  have second : CodeTree.Sound true fixedDistances := ⟨by decide, .inl (by decide)⟩
  obtain ⟨literals, made, leads⟩ := first.tree
  obtain ⟨distances, made', leads'⟩ := second.tree
  have same : fixedCodes = ⟨literals, distances⟩ := by
    rw [fixedCodes, made]
    change Codes.mk literals ((CodeTree.ofLengths? true fixedDistances).getD .empty) = _
    rw [made']
    rfl
  rw [same]
  exact ⟨leads, leads'⟩

namespace Block

variable {place : Nat} {out : Bytes} {b : Block}

theorem Fits.reads (fits : b.Fits place out) (narrow : b.Narrow) :
    ReadsAt (place + 1) (content out.toArray) b.bits (b.extend out).toArray := by
  cases b with
  | stored filler data =>
    obtain ⟨short, full, small⟩ := fits
    refine (reads_number (by decide)).at.bind ?_
    rw [if_pos rfl, stored_eq]
    refine (reads_align short (by rw [length_numberBits]; omega)).bind ?_
    refine (reads_number (by omega)).at.bind ?_
    refine (reads_number (by omega)).at.bind ?_
    rw [if_pos (by omega)]
    exact (reads_bytes out data).at
  | fixed tokens =>
    refine (reads_number (by decide)).at.bind ?_
    exact (Token.AllFit.compressed fixed_of fits).at
  | dynamic t tokens =>
    obtain ⟨table, fit⟩ := fits
    obtain ⟨codes, of, reads⟩ := table.reads narrow
    refine (reads_number (by decide)).at.bind ?_
    exact (reads.bind (fit.compressed of)).at

theorem Fits.stops (fits : b.Fits place out) (wide : ¬ b.Narrow) :
    StopsAt (place + 1) (content out.toArray) b.bits .corrupt := by
  cases b with
  | stored | fixed => exact absurd trivial wide
  | dynamic t tokens =>
    refine (reads_number (by decide)).at.stops ?_
    exact ((fits.1.stops (Nat.lt_of_not_le wide)).bind _).at

def allBits : List Block → List Bool
  | [] => []
  | b :: blocks => blocks.isEmpty :: (b.bits ++ allBits blocks)

def extendAll (out : Bytes) (blocks : List Block) : Bytes := blocks.foldl extend out

def AllFit : Nat → Bytes → List Block → Prop
  | _, _, [] => True
  | place, out, b :: blocks => b.Fits place out ∧ AllFit (place + 1 + b.bits.length) (b.extend out) blocks

instance decidableAllFit : (place : Nat) → (out : Bytes) → (blocks : List Block) → Decidable (AllFit place out blocks)
  | _, _, [] => inferInstanceAs (Decidable True)
  | place, out, b :: blocks =>
    have := decidableAllFit (place + 1 + b.bits.length) (b.extend out) blocks
    inferInstanceAs (Decidable (b.Fits place out ∧ _))

theorem length_le_allBits (blocks : List Block) : blocks.length ≤ (allBits blocks).length := by
  induction blocks with
  | nil => simp
  | cons b blocks ih =>
    rw [allBits, List.length_cons, List.length_cons, List.length_append]
    omega

/-- Blocks that are narrow are read to the last of them, if there are as many turns. -/
theorem AllFit.reads {bs : List Block} (fit : AllFit place out bs) (some : bs ≠ [])
    (narrow : ∀ b ∈ bs, b.Narrow) {count : Nat} (enough : bs.length ≤ count) :
    ReadsAt place (blocks count out.toArray) (allBits bs) (extendAll out bs).toArray := by
  induction bs generalizing place out count with
  | nil => exact absurd rfl some
  | cons b bs ih =>
    obtain ⟨count, rfl⟩ : ∃ n, count = n + 1 := ⟨count - 1, by rw [List.length_cons] at enough; omega⟩
    rw [blocks_succ]
    have last : ReadsAt place bit [bs.isEmpty] bs.isEmpty := (reads_bit _).at
    refine last.bind ?_
    refine (fit.1.reads (narrow b List.mem_cons_self)).bind ?_
    cases bs with
    | nil => exact (reads_pure _).at
    | cons next bs =>
      have rest := fun b member => narrow b (List.mem_cons_of_mem _ member)
      exact ih fit.2 (List.cons_ne_nil _ _) rest (by simpa using enough)

/-- The first block that is not narrow is as far as a stream is read. -/
theorem AllFit.stops {bs : List Block} (fit : AllFit place out bs) (wide : ¬ ∀ b ∈ bs, b.Narrow) {count : Nat}
    (enough : bs.length ≤ count) : StopsAt place (blocks count out.toArray) (allBits bs) .corrupt := by
  induction bs generalizing place out count with
  | nil => exact absurd (by simp) wide
  | cons b bs ih =>
    obtain ⟨count, rfl⟩ : ∃ n, count = n + 1 := ⟨count - 1, by rw [List.length_cons] at enough; omega⟩
    rw [blocks_succ]
    have last : ReadsAt place bit [bs.isEmpty] bs.isEmpty := (reads_bit _).at
    refine last.stops ?_
    by_cases narrow : b.Narrow
    · have later : ¬ ∀ b ∈ bs, b.Narrow := fun all => wide (List.forall_mem_cons.mpr ⟨narrow, all⟩)
      refine (fit.1.reads narrow).stops ?_
      cases bs with
      | nil => exact absurd (by simp) later
      | cons next bs => exact ih fit.2 later (by simpa using enough)
    · exact (fit.1.stops narrow).bind _

end Block

/-- Bytes that start with the bits of a stream, and have less than a byte behind them. -/
structure Stream where
  blocks : List Block
  filler : List Bool
  data : Bytes
  some : blocks ≠ []
  fit : Block.AllFit 0 [] blocks
  short : filler.length < 8
  written : bitsOf data = Block.allBits blocks ++ filler

namespace Stream

def content (s : Stream) : Bytes := Block.extendAll [] s.blocks

def Narrow (s : Stream) : Prop := ∀ b ∈ s.blocks, b.Narrow

variable (s : Stream) (more : Bytes)

theorem bits_eq : bitsOf (s.data ++ more) = Block.allBits s.blocks ++ (s.filler ++ bitsOf more) := by
  rw [bitsOf_append, s.written, List.append_assoc]

theorem whole : (0 + (Block.allBits s.blocks).length + (s.filler ++ bitsOf more).length) % 8 = 0 := by
  have := congrArg List.length (s.bits_eq more)
  simp only [length_bitsOf, List.length_append] at this ⊢
  omega

theorem turns : s.blocks.length ≤ (bitsOf (s.data ++ more)).length + 1 := by
  have := Block.length_le_allBits s.blocks
  rw [s.bits_eq, List.length_append]
  omega

variable {s}

/-- A stream is decompressed, and what follows it is left. -/
theorem inflate_narrow (narrow : s.Narrow) : inflate (s.data ++ more) = .ok (s.content, more) := by
  have read := s.fit.reads s.some narrow (s.turns more) _ (s.whole more)
  rw [← s.bits_eq] at read
  have left : (s.data ++ more).length - (s.filler ++ bitsOf more).length / 8 = s.data.length := by
    have := s.short
    rw [List.length_append, List.length_append, length_bitsOf]
    omega
  rw [inflate]
  dsimp only
  rw [read]
  change Except.ok ((Block.extendAll [] s.blocks).toArray.toList, List.drop _ (s.data ++ more)) = _
  rw [left, List.drop_left]
  rfl

theorem inflate_wide (wide : ¬ s.Narrow) : inflate (s.data ++ more) = .error .corrupt := by
  have stopped := s.fit.stops wide (s.turns more) _ (s.whole more)
  rw [← s.bits_eq] at stopped
  rw [inflate]
  dsimp only
  rw [stopped]
  rfl

/-- A letter, and another one four times: its last three are a copy of the one before, by the only code for a distance. -/
example : Stream.content
    { blocks := [.dynamic ⟨258, 1, [0, 0, 2, 0, 0, 0, 0, 0, 0, 0, 0, 0, 0, 0, 0, 1, 0, 2],
          [.manyZeros 86, .length 2, .length 2, .manyZeros 127, .manyZeros 8, .length 2, .length 2, .length 1]⟩
        [.literal 97, .literal 98, .copy ⟨0, 0⟩ ⟨0, 0⟩]]
      filler := List.replicate 7 false
      data := [13, 192, 1, 1, 0, 0, 0, 64, 160, 173, 252, 31, 65, 184, 0]
      some := by decide
      fit := by decide +kernel
      short := by decide
      written := by decide +kernel } = [97, 98, 98, 98, 98] := by decide

end Stream

end Stowage.Gzip.Deflate
