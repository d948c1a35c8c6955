import Mathlib.Algebra.GroupWithZero.Nat
import Mathlib.Data.List.GetD
import Stowage.Gzip.Deflate

/-! Codes for symbols, as the lengths of the codes alone tell them, and that a tree of such codes reads them. A code is
a share of all sequences of 15 bits, and no two symbols have a sequence in common. -/
namespace Stowage.Gzip

namespace CodeTree

def count (lengths : List Nat) (length : Nat) : Nat := if length = 0 then 0 else lengths.count length

/-- The first code of each length: it follows the codes that are shorter by one bit, with a zero after it. -/
def first (lengths : List Nat) : Nat → Nat
  | 0 => 0
  | length + 1 => 2 * (first lengths length + count lengths length)

def number (lengths : List Nat) (symbol : Nat) : Nat :=
  first lengths (lengths.getD symbol 0) + (lengths.take symbol).count (lengths.getD symbol 0)

/-- The code of a symbol, most significant bit first. -/
def code (lengths : List Nat) (symbol : Nat) : List Bool :=
  path (lengths.getD symbol 0) (number lengths symbol)

/-- How many sequences of 15 bits start with a code of this length. -/
def share (length : Nat) : Nat := 2 ^ (15 - length)

/-- How many sequences of 15 bits start with a code. -/
def covered (lengths : List Nat) : Nat := ((lengths.filter (· ≠ 0)).map share).sum

inductive Leads : CodeTree → List Bool → Nat → Prop
  | leaf {s : Nat} : Leads (.leaf s) [] s
  | zero {zero one : CodeTree} {p : List Bool} {s : Nat} : Leads zero p s → Leads (.node zero one) (false :: p) s
  | one {zero one : CodeTree} {p : List Bool} {s : Nat} : Leads one p s → Leads (.node zero one) (true :: p) s

theorem Leads.symbol {tree : CodeTree} {p : List Bool} {s : Nat} (leads : Leads tree p s) (rest : List Bool) :
    Deflate.symbol tree (p ++ rest) = .ok (s, rest) := by
  induction leads with
  | leaf => rfl
  | zero _ ih => exact ih
  | one _ ih => exact ih

theorem leads_insert (s : Nat) (p : List Bool) (tree : CodeTree) : Leads (insert s p tree) p s := by
  induction p generalizing tree with
  | nil => exact .leaf
  | cons b p ih =>
    cases b with
    | false => cases tree <;> exact .zero (ih _)
    | true => cases tree <;> exact .one (ih _)

/-- A symbol at the end of a path is no obstacle on paths that part from it. -/
theorem Leads.insert {tree : CodeTree} {p q : List Bool} {s t : Nat} (leads : Leads tree q t)
    (before : ¬ p <+: q) (behind : ¬ q <+: p) : Leads (CodeTree.insert s p tree) q t := by
  induction p generalizing q tree with
  | nil => exact absurd List.nil_prefix before
  | cons b p ih =>
    cases leads with
    | leaf => exact absurd List.nil_prefix behind
    | zero leads =>
      cases b with
      | false => exact .zero (ih leads (by simpa using before) (by simpa using behind))
      | true => exact .zero leads
    | one leads =>
      cases b with
      | false => exact .one leads
      | true => exact .one (ih leads (by simpa using before) (by simpa using behind))

section Paths

variable {l k c d : Nat}

@[simp] theorem length_path : (path l c).length = l := by simp [path]

theorem path_add : path (l + k) c = path l (c / 2 ^ k) ++ path k c := by
  apply List.ext_getElem
  · simp
  · intro i within _
    rw [length_path] at within
    by_cases front : i < l
    · simp only [path, List.getElem_append, List.length_map, List.length_range, front, dif_pos, List.getElem_map,
        List.getElem_range, Nat.testBit_div_two_pow]
      congr 1
      omega
    · simp only [path, List.getElem_append, List.length_map, List.length_range, front, dif_neg, not_false_eq_true,
        List.getElem_map, List.getElem_range]
      congr 1
      omega

theorem path_inj (small : c < 2 ^ l) (small' : d < 2 ^ l) (same : path l c = path l d) : c = d := by
  apply Nat.eq_of_testBit_eq
  intro i
  by_cases within : i < l
  · have bit := List.getElem_of_eq same (i := l - 1 - i) (by simp; omega)
    simp only [path, List.getElem_map, List.getElem_range] at bit
    rwa [show l - 1 - (l - 1 - i) = i by omega] at bit
  · have tall : 2 ^ l ≤ 2 ^ i := Nat.pow_le_pow_right (by decide) (by omega)
    rw [Nat.testBit_lt_two_pow (by omega), Nat.testBit_lt_two_pow (by omega)]

/-- A code that starts like a shorter one is among those that continue it. -/
theorem path_prefix {m : Nat} (small : c < 2 ^ l) (small' : d < 2 ^ m) (starts : path l c <+: path m d) :
    l ≤ m ∧ c = d / 2 ^ (m - l) := by
  have short : l ≤ m := by simpa using starts.length_le
  refine ⟨short, path_inj small ?_ ?_⟩
  · rw [Nat.div_lt_iff_lt_mul (Nat.two_pow_pos _), ← Nat.pow_add]
    rwa [show l + (m - l) = m by omega]
  · have split : path m d = path l (d / 2 ^ (m - l)) ++ path (m - l) d := by
      rw [← path_add, show l + (m - l) = m by omega]
    rw [split] at starts
    have whole := List.prefix_iff_eq_take.mp starts
    rw [length_path, List.take_append_of_le_length (by simp)] at whole
    rw [whole]
    exact List.take_of_length_le (by simp)

theorem share_pos : 0 < share l := Nat.two_pow_pos _

/-- A longer code has a part of the share of each code it continues. -/
theorem share_mul {m : Nat} (short : l ≤ m) (bound : m ≤ 15) : share l = 2 ^ (m - l) * share m := by
  rw [share, share, ← Nat.pow_add]
  congr 1
  omega

/-- Codes without a sequence in common part from each other. -/
theorem path_apart {m : Nat} (small : c < 2 ^ l) (small' : d < 2 ^ m) (bound : l ≤ 15) (bound' : m ≤ 15)
    (apart : (c + 1) * share l ≤ d * share m) : ¬ path l c <+: path m d ∧ ¬ path m d <+: path l c := by
  constructor
  · intro starts
    obtain ⟨short, rfl⟩ := path_prefix small small' starts
    have above := Nat.lt_mul_div_succ d (Nat.two_pow_pos (m - l))
    rw [share_mul short bound', ← Nat.mul_assoc] at apart
    have := Nat.le_of_mul_le_mul_right apart share_pos
    rw [Nat.mul_comm] at this
    omega
  · intro starts
    obtain ⟨short, rfl⟩ := path_prefix small' small starts
    have below := Nat.div_mul_le_self c (2 ^ (l - m))
    rw [share_mul short bound, ← Nat.mul_assoc] at apart
    have := Nat.le_of_mul_le_mul_right apart share_pos
    omega

end Paths

def taken (entries : List (Nat × Nat)) : Nat := (entries.map fun e => share e.1).sum

@[simp] theorem taken_nil : taken [] = 0 := rfl

@[simp] theorem taken_cons (l s : Nat) (entries : List (Nat × Nat)) :
    taken ((l, s) :: entries) = share l + taken entries := rfl

@[simp] theorem taken_append (first second : List (Nat × Nat)) :
    taken (first ++ second) = taken first + taken second := by simp [taken]

section Inserting

variable {length next code : Nat}

theorem shift_share (longer : length ≤ next) (bound : next ≤ 15) :
    code <<< (next - length) * share next = code * share length := by
  rw [Nat.shiftLeft_eq, Nat.mul_assoc, ← share_mul longer bound]

theorem lt_of_share (bound : next ≤ 15) (fits : (code + 1) * share next ≤ 2 ^ 15) : code < 2 ^ next := by
  have whole : 2 ^ 15 = 2 ^ next * share next := by
    rw [share, ← Nat.pow_add]
    congr 1
    omega
  rw [whole] at fits
  have := Nat.le_of_mul_le_mul_right fits share_pos
  omega

/-- Entries that can be given codes from a code on: shorter codes first, and enough sequences left. -/
structure Fits (length code : Nat) (entries : List (Nat × Nat)) : Prop where
  sorted : (length :: entries.map (·.1)).Pairwise (· ≤ ·)
  bound : ∀ e ∈ entries, e.1 ≤ 15
  room : code * share length + taken entries ≤ 2 ^ 15

variable {symbol : Nat} {entries : List (Nat × Nat)}

theorem Fits.tail (fits : Fits length code ((next, symbol) :: entries)) :
    Fits next (code <<< (next - length) + 1) entries := by
  have longer : length ≤ next := List.rel_of_pairwise_cons fits.sorted List.mem_cons_self
  have bound : next ≤ 15 := fits.bound _ List.mem_cons_self
  refine ⟨(List.pairwise_cons.mp fits.sorted).2, fun e member => fits.bound e (List.mem_cons_of_mem _ member), ?_⟩
  have room := fits.room
  rw [taken_cons, ← shift_share longer bound] at room
  rw [Nat.add_mul]
  omega

theorem Fits.head (fits : Fits length code ((next, symbol) :: entries)) :
    length ≤ next ∧ next ≤ 15 ∧ code <<< (next - length) < 2 ^ next := by
  have bound : next ≤ 15 := fits.bound _ List.mem_cons_self
  refine ⟨List.rel_of_pairwise_cons fits.sorted List.mem_cons_self, bound, lt_of_share bound ?_⟩
  exact Nat.le_trans (Nat.le_add_right _ _) fits.tail.room

variable {l c s : Nat}

/-- Codes that are given later leave the ones given before in place. -/
theorem insertAll_keeps {tree : CodeTree} (fits : Fits length code entries) (bound : l ≤ 15) (small : c < 2 ^ l)
    (below : (c + 1) * share l ≤ code * share length) (leads : Leads tree (path l c) s) :
    Leads (insertAll length code entries tree) (path l c) s := by
  induction entries generalizing length code tree with
  | nil => exact leads
  | cons e entries ih =>
    obtain ⟨next, symbol⟩ := e
    obtain ⟨longer, bound', small'⟩ := fits.head
    rw [← shift_share longer bound'] at below
    obtain ⟨behind, before⟩ := path_apart small small' bound bound' below
    have later : (c + 1) * share l ≤ (code <<< (next - length) + 1) * share next := by
      rw [Nat.add_mul (code <<< _)]
      omega
    exact ih fits.tail later (leads.insert before behind)

/-- Each entry is given the code behind the sequences that are taken before it. -/
theorem insertAll_leads {tree : CodeTree} {before after : List (Nat × Nat)}
    (fits : Fits length code (before ++ (l, s) :: after))
    (start : c * share l = code * share length + taken before) :
    Leads (insertAll length code (before ++ (l, s) :: after) tree) (path l c) s := by
  induction before generalizing length code tree with
  | nil =>
    rw [List.nil_append] at fits ⊢
    obtain ⟨longer, bound, small⟩ := fits.head
    rw [taken_nil, Nat.add_zero, ← shift_share longer bound] at start
    have same : c = code <<< (l - length) := Nat.eq_of_mul_eq_mul_right share_pos start
    subst same
    have placed := leads_insert s (path l (code <<< (l - length))) tree
    rw [insertAll]
    exact insertAll_keeps fits.tail bound small (Nat.le_refl _) placed
  | cons e before ih =>
    obtain ⟨next, symbol⟩ := e
    obtain ⟨longer, bound, -⟩ := fits.head
    refine ih fits.tail ?_
    rw [taken_cons, ← shift_share longer bound] at start
    rw [start, Nat.add_mul]
    omega

end Inserting

variable (lengths : List Nat)

def level (length : Nat) : List (Nat × Nat) :=
  if length = 0 then [] else lengths.zipIdx.filter fun e => e.1 = length

theorem used_eq : used lengths = (List.range 16).flatMap (level lengths) := rfl

theorem mem_level {length : Nat} {e : Nat × Nat} (member : e ∈ level lengths length) : e.1 = length := by
  unfold level at member
  split at member
  · cases member
  · exact of_decide_eq_true (List.mem_filter.mp member).2

theorem taken_filter (length start : Nat) :
    taken ((lengths.zipIdx start).filter fun e => e.1 = length) = lengths.count length * share length := by
  induction lengths generalizing start with
  | nil => simp
  | cons l lengths ih =>
    rw [List.zipIdx_cons, List.filter_cons, List.count_cons]
    by_cases same : l = length
    · subst same
      simp only [decide_true, if_true, taken_cons, ih, BEq.rfl]
      rw [Nat.add_mul]
      omega
    · simp [same, ih]

theorem taken_level (length : Nat) : taken (level lengths length) = count lengths length * share length := by
  unfold level count
  split
  · simp
  · exact taken_filter lengths length 0

/-- The first code of a length stands behind the sequences that all shorter codes take. -/
theorem first_share {length : Nat} (bound : length ≤ 15) :
    first lengths length * share length = taken ((List.range length).flatMap (level lengths)) := by
  induction length with
  | zero => simp [first]
  | succ length ih =>
    have half := share_mul (Nat.le_succ length) bound
    have longer : length + 1 - length = 1 := by omega
    rw [longer, Nat.pow_one] at half
    calc first lengths (length + 1) * share (length + 1)
        = (first lengths length + count lengths length) * share length := by
          rw [first, half, Nat.mul_comm 2, Nat.mul_assoc]
      _ = taken ((List.range length).flatMap (level lengths)) + taken (level lengths length) := by
          rw [Nat.add_mul, ih (by omega), taken_level]
      _ = taken ((List.range (length + 1)).flatMap (level lengths)) := by
          rw [List.range_succ, List.flatMap_append, taken_append]
          simp

theorem count_cons (l length : Nat) : count (l :: lengths) length =
    count lengths length + if l ≠ 0 ∧ l = length then 1 else 0 := by
  rw [count, count, List.count_cons]
  by_cases same : l = length
  · subst same
    by_cases none : l = 0 <;> simp [none]
  · simp [same]

/-- What the codes of the next length take comes to what those of shorter lengths take. -/
theorem sum_filter_succ (length : Nat) :
    ((lengths.filter fun l => l ≠ 0 ∧ l < length + 1).map share).sum =
      ((lengths.filter fun l => l ≠ 0 ∧ l < length).map share).sum + count lengths length * share length := by
  induction lengths with
  | nil => simp [count]
  | cons l lengths ih =>
    rw [count_cons, Nat.add_mul]
    by_cases none : l = 0
    · simpa [none] using ih
    rcases Nat.lt_trichotomy l length with less | rfl | more
    · have reached : l < length + 1 := by omega
      have other : l ≠ length := by omega
      rw [List.filter_cons_of_pos (by simp [none, reached]), List.filter_cons_of_pos (by simp [none, less]),
        List.map_cons, List.map_cons, List.sum_cons, List.sum_cons, ih, if_neg (by simp [other])]
      omega
    · rw [List.filter_cons_of_pos (by simp [none]), List.filter_cons_of_neg (by simp), List.map_cons, List.sum_cons,
        ih, if_pos ⟨none, rfl⟩]
      omega
    · have other : l ≠ length := by omega
      rw [List.filter_cons_of_neg (by simp; omega), List.filter_cons_of_neg (by simp; omega), ih,
        if_neg (by simp [other])]
      omega

theorem taken_levels (length : Nat) : taken ((List.range length).flatMap (level lengths)) =
    ((lengths.filter fun l => l ≠ 0 ∧ l < length).map share).sum := by
  induction length with
  | zero =>
    rw [List.filter_eq_nil_iff.mpr (by simp)]
    rfl
  | succ length ih =>
    rw [sum_filter_succ, ← ih, List.range_succ, List.flatMap_append, taken_append, ← taken_level]
    simp

theorem taken_used (bound : ∀ l ∈ lengths, l ≤ 15) : taken (used lengths) = covered lengths := by
  rw [used_eq, taken_levels, covered]
  congr 2
  refine List.filter_congr fun l member => ?_
  have := bound l member
  exact decide_eq_decide.mpr (by omega)

theorem used_sorted : (used lengths).Pairwise fun e e' => e.1 ≤ e'.1 := by
  rw [used_eq, List.pairwise_flatMap]
  constructor
  · intro length _
    apply List.pairwise_iff_forall_sublist.mpr
    intro e e' both
    have first : e.1 = length := mem_level lengths (both.subset List.mem_cons_self)
    have second : e'.1 = length := mem_level lengths (both.subset (List.mem_cons_of_mem _ List.mem_cons_self))
    exact Nat.le_of_eq (first.trans second.symm)
  · refine List.pairwise_lt_range.imp ?_
    intro length length' less e member e' member'
    rw [mem_level lengths member, mem_level lengths member']
    exact Nat.le_of_lt less

theorem fits_used (room : taken (used lengths) ≤ 2 ^ 15) : Fits 0 0 (used lengths) := by
  refine ⟨List.pairwise_cons.mpr ⟨fun _ _ => Nat.zero_le _, ?_⟩, ?_, by simpa using room⟩
  · exact List.pairwise_map.mpr (used_sorted lengths)
  · intro e member
    rw [used_eq, List.mem_flatMap] at member
    obtain ⟨length, within, member⟩ := member
    rw [mem_level lengths member]
    have := List.mem_range.mp within
    omega

variable {lengths}

theorem range_split {l : Nat} (bound : l ≤ 15) :
    List.range 16 = List.range l ++ l :: List.range' (l + 1) (15 - l) := by
  have joined := List.range'_append_1 (s := 0) (m := l) (n := 16 - l)
  rw [Nat.zero_add, show 16 - l = 15 - l + 1 by omega, List.range'_succ, ← List.range_eq_range',
    ← List.range_eq_range', show l + (15 - l + 1) = 16 by omega] at joined
  exact joined.symm

theorem level_split (before after : List Nat) {l : Nat} (coded : l ≠ 0) :
    level (before ++ l :: after) l = (before.zipIdx.filter fun e => e.1 = l) ++ (l, before.length) ::
      ((after.zipIdx (before.length + 1)).filter fun e => e.1 = l) := by
  rw [level, if_neg coded, List.zipIdx_append, List.zipIdx_cons, List.filter_append,
    List.filter_cons_of_pos (by simp), Nat.zero_add]

/-- A symbol comes behind those with shorter codes and the earlier ones with codes of the same length. -/
theorem used_split {symbol : Nat} (coded : lengths.getD symbol 0 ≠ 0) (bound : lengths.getD symbol 0 ≤ 15) :
    ∃ before after, used lengths = before ++ (lengths.getD symbol 0, symbol) :: after ∧
      number lengths symbol * share (lengths.getD symbol 0) = taken before := by
  have within : symbol < lengths.length :=
    Nat.lt_of_not_le fun outside => coded (List.getD_eq_default _ _ outside)
  have size : (lengths.take symbol).length = symbol := List.length_take_of_le (Nat.le_of_lt within)
  generalize found : lengths.getD symbol 0 = l at *
  have here : lengths[symbol] = l := by rw [← found, List.getD_eq_getElem]
  have split : lengths.take symbol ++ l :: lengths.drop (symbol + 1) = lengths := by
    rw [← here, List.getElem_cons_drop, List.take_append_drop]
  have placed := level_split (lengths.take symbol) (lengths.drop (symbol + 1)) coded
  rw [split, size] at placed
  refine ⟨(List.range l).flatMap (level lengths) ++ ((lengths.take symbol).zipIdx.filter fun e => e.1 = l),
    ((lengths.drop (symbol + 1)).zipIdx (symbol + 1)).filter (fun e => e.1 = l) ++
      (List.range' (l + 1) (15 - l)).flatMap (level lengths), ?_, ?_⟩
  · rw [used_eq, range_split bound, List.flatMap_append, List.flatMap_cons, placed]
    simp only [List.append_assoc, List.cons_append]
  · rw [taken_append, taken_filter, ← first_share lengths bound, ← Nat.add_mul, number, found]

theorem foldl_add (f : Nat → Nat) (start : Nat) (l : List Nat) :
    l.foldl (fun total n => total + f n) start = start + (l.map f).sum := by
  induction l generalizing start with
  | nil => rfl
  | cons n l ih =>
    rw [List.foldl_cons, ih, List.map_cons, List.sum_cons, Nat.add_assoc]

theorem weight_eq (lengths : List Nat) : weight lengths = covered lengths := by
  rw [weight, foldl_add, Nat.zero_add, covered]
  congr 2
  funext l
  rw [share, Nat.one_shiftLeft]

theorem isLone_iff (lengths : List Nat) : isLone lengths = true ↔
    lengths.filter (· ≠ 0) = [] ∨ lengths.filter (· ≠ 0) = [1] := by
  simp only [isLone, Bool.or_eq_true, decide_eq_true_eq]

/-- Lengths that codes can have: each sequence of bits starts with a code, or there is at most one code, of one bit,
where that will do. -/
structure Sound (alone : Bool) (lengths : List Nat) : Prop where
  bound : ∀ l ∈ lengths, l ≤ 15
  full : covered lengths = 2 ^ 15 ∨
    alone = true ∧ (lengths.filter (· ≠ 0) = [] ∨ lengths.filter (· ≠ 0) = [1])

instance (alone : Bool) (lengths : List Nat) : Decidable (Sound alone lengths) :=
  decidable_of_iff ((∀ l ∈ lengths, l ≤ 15) ∧ (covered lengths = 2 ^ 15 ∨
    alone = true ∧ (lengths.filter (· ≠ 0) = [] ∨ lengths.filter (· ≠ 0) = [1])))
    ⟨fun ⟨bound, full⟩ => ⟨bound, full⟩, fun ⟨bound, full⟩ => ⟨bound, full⟩⟩

theorem Sound.room {alone : Bool} (sound : Sound alone lengths) : taken (used lengths) ≤ 2 ^ 15 := by
  rw [taken_used lengths sound.bound]
  rcases sound.full with full | ⟨-, none | one⟩
  · exact Nat.le_of_eq full
  · rw [covered, none]
    decide
  · rw [covered, one]
    decide

/-- Sound lengths give a tree, in which the code of each symbol leads to the symbol. -/
theorem Sound.tree {alone : Bool} (sound : Sound alone lengths) :
    ∃ tree, ofLengths? alone lengths = some tree ∧
      ∀ symbol, lengths.getD symbol 0 ≠ 0 → Leads tree (code lengths symbol) symbol := by
  refine ⟨insertAll 0 0 (used lengths) (node empty empty), ?_, ?_⟩
  · rw [ofLengths?, if_pos]
    rw [weight_eq, Bool.or_eq_true, Bool.and_eq_true, isLone_iff]
    exact sound.full.imp decide_eq_true id
  · intro symbol coded
    have bound : lengths.getD symbol 0 ≤ 15 := by
      rw [List.getD_eq_getElem?_getD] at coded ⊢
      cases found : lengths[symbol]? with
      | none => exact Nat.zero_le 15
      | some l => exact sound.bound l (List.mem_of_getElem? found)
    obtain ⟨before, after, split, start⟩ := used_split coded bound
    have fits := fits_used lengths sound.room
    rw [split] at fits ⊢
    rw [code]
    refine insertAll_leads fits ?_
    rw [start, Nat.zero_mul, Nat.zero_add]

end CodeTree
end Stowage.Gzip
