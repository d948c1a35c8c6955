import Mathlib.Data.Nat.Digits.Defs
import Stowage.Proofs.Span.Grammar

/-! Lengths of time in whole seconds. A double holds every natural below 2⁵³, and products and sums that stay
there are not rounded, so that hours, minutes and seconds are added up exactly. -/
namespace Stowage

namespace Number

theorem digitsValue_eq_ofDigits (ds : List Char) :
    digitsValue ds = Nat.ofDigits 10 (ds.reverse.map digitValue) := by
  induction ds using List.reverseRecOn with
  | nil => rfl
  | append_singleton ds c ih =>
    rw [digitsValue, List.foldl_append, ← digitsValue, ih, List.foldl_cons, List.foldl_nil, List.reverse_append,
      List.reverse_singleton, List.singleton_append, List.map_cons, Nat.ofDigits_cons, Nat.add_comm]

theorem Decimal.read?_of_digits {ds : List Char} (digits : ∀ c ∈ ds, c.isDigit = true) (given : ds ≠ []) :
    Decimal.read? ds = some ⟨digitsValue ds, 0⟩ := by
  have all : ds.takeWhile Char.isDigit = ds := List.takeWhile_eq_self_iff.mpr digits
  have none : ds.dropWhile Char.isDigit = [] := List.dropWhile_eq_nil_iff.mpr digits
  rw [Decimal.read?, none, all]
  simp [given]

theorem unitsPerOne_eq : ∃ k, unitsPerOne = 2 ^ k := by
  unfold unitsPerOne
  generalize 1074 = k
  exact ⟨k, Nat.one_shiftLeft k⟩

theorem unitsPerOne_pos : 0 < unitsPerOne := by
  obtain ⟨k, same⟩ := unitsPerOne_eq
  rw [same]
  exact Nat.two_pow_pos k

/-- A number of 53 significant bits lies on the grid around it. -/
theorem spacing_dvd {n : Nat} (small : n < 2 ^ 53) : spacing (n * unitsPerOne) ∣ n * unitsPerOne := by
  obtain ⟨k, same⟩ := unitsPerOne_eq
  rw [spacing, Nat.one_shiftLeft, same]
  apply Dvd.dvd.mul_left
  apply Nat.pow_dvd_pow
  by_cases zero : n * 2 ^ k = 0
  · rw [zero]
    exact Nat.zero_le k
  · have bound : n * 2 ^ k < 2 ^ (53 + k) := by
      rw [Nat.pow_add]
      exact Nat.mul_lt_mul_of_pos_right small (Nat.two_pow_pos k)
    have log := (Nat.log2_lt zero).mpr bound
    omega

theorem lt_shiftLeft {n units k : Nat} (small : n < 2 ^ 53) (pos : 0 < units) (wide : 53 ≤ k) :
    n * units < units <<< k := by
  rw [Nat.shiftLeft_eq, Nat.mul_comm units]
  apply Nat.mul_lt_mul_of_pos_right _ pos
  exact Nat.lt_of_lt_of_le small (Nat.pow_le_pow_right Nat.two_pos wide)

/-- What is on the grid is not rounded. -/
theorem roundQuotient_of_dvd {m den : Nat} (fits : spacing m ∣ m) (pos : 0 < den) :
    roundQuotient (m * den) den = m := by
  obtain ⟨k, whole⟩ := fits
  have step : 0 < spacing m := by
    rw [spacing, Nat.one_shiftLeft]
    exact Nat.two_pow_pos _
  rw [roundQuotient, Nat.mul_div_cancel m pos]
  generalize spacing m = d at *
  have shape : m * den = k * (den * d) := by
    rw [whole, Nat.mul_comm d k, Nat.mul_assoc, Nat.mul_comm d den]
  rw [shape, roundDiv_mul_right k (Nat.mul_pos pos step), whole, Nat.mul_comm]

namespace Double

/-- The double of a natural that needs no rounding. -/
def whole (n : Nat) : Double := .finite (n * unitsPerOne)

theorem ofUnits_whole {n den : Nat} (small : n < 2 ^ 53) (pos : 0 < den) :
    ofUnits (n * unitsPerOne * den) den = whole n := by
  rw [ofUnits, roundQuotient_of_dvd (spacing_dvd small) pos]
  exact if_pos (lt_shiftLeft small unitsPerOne_pos (by decide))

theorem ofDecimal_whole {n : Nat} (small : n < 2 ^ 53) : ofDecimal n 0 = whole n := by
  have exact := ofUnits_whole small Nat.one_pos
  rw [Nat.mul_one] at exact
  exact exact

theorem whole_add {a b : Nat} (small : a + b < 2 ^ 53) : whole a + whole b = whole (a + b) := by
  have exact := ofUnits_whole small Nat.one_pos
  rw [Nat.mul_one, Nat.add_mul] at exact
  exact exact

theorem whole_mul {a b : Nat} (small : a * b < 2 ^ 53) : whole a * whole b = whole (a * b) := by
  have exact := ofUnits_whole small unitsPerOne_pos
  have shape : a * b * unitsPerOne * unitsPerOne = a * unitsPerOne * (b * unitsPerOne) := by ring
  rw [shape] at exact
  exact exact

end Double
end Number

namespace Text

theorem isBlank_of_isDigit {c : Char} (digit : c.isDigit = true) : isBlank c = false := by
  have range : 48 ≤ c.toNat ∧ c.toNat ≤ 57 := by
    simpa [Char.isDigit, UInt32.le_iff_toNat_le] using digit
  simp only [isBlank, Bool.or_eq_false_iff, Bool.and_eq_false_iff, decide_eq_false_iff_not]
  omega

end Text

namespace Span

open Number

theorem ofDouble?_whole {n : Nat} (small : n < 2 ^ 53) : ofDouble? (.whole n) = some (.ofSeconds n) := by
  have short : n * unitsPerOne < UInt64.size * unitsPerOne :=
    Nat.mul_lt_mul_of_pos_right (small.trans (by decide)) unitsPerOne_pos
  have shape : n * unitsPerOne * nanosPerSecond = n * nanosPerSecond * unitsPerOne := by ring
  rw [Double.whole, ofDouble?, if_pos short, shape, roundDiv_mul_right _ unitsPerOne_pos]
  rfl

inductive WholeUnit where
  | hour | minute | second
deriving DecidableEq, Repr

namespace WholeUnit

def letter : WholeUnit → Char
  | hour => 'h'
  | minute => 'm'
  | second => 's'

def seconds : WholeUnit → Nat
  | hour => 3600
  | minute => 60
  | second => 1

end WholeUnit

structure Count where
  digits : List Char
  unit : WholeUnit
  given : digits ≠ []
  plain : ∀ c ∈ digits, c.isDigit = true

namespace Count

/-- The digits stand in order of their weight, the greatest first. -/
def seconds (c : Count) : Nat := Nat.ofDigits 10 (c.digits.reverse.map digitValue) * c.unit.seconds

def pair (c : Count) : Pair := ⟨c.digits, [c.unit.letter]⟩

def text (cs : List Count) : String := String.ofList (cs.flatMap fun c => c.digits ++ [c.unit.letter])

def sum (cs : List Count) : Nat := (cs.map seconds).sum

theorem letter_kind (unit : WholeUnit) : isNumeral unit.letter = false ∧ Text.isBlank unit.letter = false := by
  cases unit <;> decide

theorem unitSeconds_letter (unit : WholeUnit) : unitSeconds [unit.letter] = some (.whole unit.seconds) := by
  cases unit <;> exact congrArg some (Double.ofDecimal_whole (by decide))

theorem seconds_pos (unit : WholeUnit) : 1 ≤ unit.seconds := by
  cases unit <;> decide

variable (c : Count)

theorem kinds : c.pair.Kinds where
  numeral := fun d member => by simp [isNumeral, c.plain d member]
  unit := by simp [pair, letter_kind]
  solid := by simp [pair, Pair.chars]

theorem formed : c.pair.Formed := by
  constructor
  · rw [c.kinds.numbered_iff, pair, Decimal.read?_of_digits c.plain c.given]
    rfl
  · rw [← unitSeconds_isSome_iff, pair, unitSeconds_letter]
    rfl

theorem worth (small : c.seconds < 2 ^ 53) : c.pair.worth = .whole c.seconds := by
  have number : Nat.ofDigits 10 (c.digits.reverse.map digitValue) < 2 ^ 53 := 
    Nat.lt_of_le_of_lt (Nat.le_mul_of_pos_right _ (seconds_pos c.unit)) small
  rw [Pair.worth, pair, Decimal.read?_of_digits c.plain c.given, unitSeconds_letter, digitsValue_eq_ofDigits]
  dsimp only
  rw [Double.ofDecimal_whole number, Double.whole_mul small, seconds]

theorem runs (cs : List Count) : Pair.Runs (text cs).toList (cs.map pair) where
  joined := by simp [text, List.flatMap_map, Pair.chars, pair]
  kinds := by
    intro p member
    obtain ⟨c, -, rfl⟩ := List.mem_map.mp member
    exact c.kinds
  joints := by
    induction cs with
    | nil => exact .nil
    | cons c cs ih =>
      rw [List.map_cons, List.isChain_cons]
      refine ⟨?_, ih⟩
      intro q head
      obtain ⟨d, -, rfl⟩ := List.mem_map.mp (List.mem_of_mem_head? head)
      exact ⟨List.cons_ne_nil _ _, d.given⟩

theorem trims (cs : List Count) : Text.Trims (text cs).toList (text cs).toList := by
  refine ⟨⟨[], [], by simp, by simp, by simp⟩, ?_, ?_⟩
  · intro d head
    cases cs with
    | nil => simp [text] at head
    | cons c cs =>
      rw [text, String.toList_ofList, List.flatMap_cons, List.append_assoc,
        List.head?_append_of_ne_nil _ c.given] at head
      exact Text.isBlank_of_isDigit (c.plain d (List.mem_of_mem_head? head))
  · intro d last
    obtain rfl | ⟨front, c, rfl⟩ := List.eq_nil_or_concat cs
    · simp [text] at last
    · have letter : d = c.unit.letter := by simpa [text, eq_comm] using last
      rw [letter]
      exact (letter_kind c.unit).2

theorem sum_cons (c : Count) (cs : List Count) : sum (c :: cs) = c.seconds + sum cs := by
  simp [sum]

/-- Sums on the way are not greater than the whole, so that none of them is rounded. -/
theorem foldl_whole (cs : List Count) (before : Nat) (small : before + sum cs < 2 ^ 53) :
    (cs.map pair).foldl (fun sum p => sum + p.worth) (.whole before) = .whole (before + sum cs) := by
  induction cs generalizing before with
  | nil => rfl
  | cons c cs ih =>
    rw [sum_cons, ← Nat.add_assoc] at small ⊢
    have first : c.seconds < 2 ^ 53 := by omega
    have both : before + c.seconds < 2 ^ 53 := by omega
    rw [List.map_cons, List.foldl_cons, c.worth first, Double.whole_add both]
    exact ih _ small

theorem total_whole {cs : List Count} (small : sum cs < 2 ^ 53) : total (cs.map pair) = .whole (sum cs) := by
  have added := foldl_whole cs 0 (by omega)
  rw [Nat.zero_add] at added
  rw [total, ← added, Double.whole, Nat.zero_mul]
  rfl

/-- A text of counts has a digit and a letter at least. -/
theorem text_ne {cs : List Count} (some : cs ≠ []) : (text cs).toList ≠ [] ∧ (text cs).toList ≠ ['0'] := by
  obtain ⟨c, cs, rfl⟩ := List.exists_cons_of_ne_nil some
  obtain ⟨d, ds, digits⟩ := List.exists_cons_of_ne_nil c.given
  simp [text, digits]

end Count

/-- A length of time in whole hours, minutes and seconds is read as what it adds up to, as long as that has 53
bits at most. -/
theorem read_whole (cs : List Count) (some : cs ≠ []) (small : Count.sum cs < 2 ^ 53) :
    read (Count.text cs) = .ok (.ofSeconds (Count.sum cs)) := by
  have trimmed : (Count.text cs).toList = Text.trimChars (Count.text cs).toList := Text.trims_iff.mp (Count.trims cs)
  have divided : cs.map Count.pair = Pair.split (Count.text cs).toList := Pair.runs_iff.mp (Count.runs cs)
  obtain ⟨given, other⟩ := Count.text_ne some
  have formed : ∀ p ∈ cs.map Count.pair, p.Formed := by
    intro p member
    obtain ⟨c, -, rfl⟩ := List.mem_map.mp member
    exact c.formed
  have added := addPairs_of_formed (Count.text cs) (Count.runs cs).kinds formed .zero
  rw [← total, Count.total_whole small, divided] at added
  rw [trimmed] at given other added
  rw [read_of_sum given other added, ofDouble?_whole small]

/-- The greatest sum that is sure to be exact. -/
def longest : List Count :=
  [⟨"2501999792983".toList, .hour, by decide +kernel, List.all_eq_true.mp (by decide +kernel)⟩,
    ⟨"0036".toList, .minute, by decide +kernel, List.all_eq_true.mp (by decide +kernel)⟩,
    ⟨"31".toList, .second, by decide +kernel, List.all_eq_true.mp (by decide +kernel)⟩]

theorem read_longest : Count.sum longest = 2 ^ 53 - 1 ∧
    read "2501999792983h0036m31s" = .ok (.ofSeconds (2 ^ 53 - 1)) := by
  have some : longest ≠ [] := List.cons_ne_nil _ _
  have sum : Count.sum longest = 2 ^ 53 - 1 := by decide +kernel
  have text : Count.text longest = "2501999792983h0036m31s" := by decide +kernel
  have exact := read_whole longest some (by omega)
  rw [text, sum] at exact
  exact ⟨sum, exact⟩

-- Two seconds more are rounded to one more.
example : read "9007199254740993s" = .ok (.ofSeconds 9007199254740992) := by decide +kernel

end Span
end Stowage
