import Mathlib.Algebra.Group.Nat.Defs
import Mathlib.Data.List.Chain
import Mathlib.Data.List.TakeWhile
import Stowage.Span.Reader

/-! The grammar of lengths of time. A trimmed text has one division into runs, and the pairs of runs decide, from
the left, what is read: the first pair that is not well formed tells the fault, and without one the sum does. -/
namespace Stowage

namespace Text

/-- What stands between the blanks at both ends of a text. -/
structure Trims (cs t : List Char) : Prop where
  between : ∃ before after, cs = before ++ (t ++ after) ∧ (∀ c ∈ before, isBlank c = true) ∧
    ∀ c ∈ after, isBlank c = true
  first : ∀ c ∈ t.head?, isBlank c = false
  last : ∀ c ∈ t.getLast?, isBlank c = false

theorem dropWhile_append_of_head {test : Char → Bool} {before rest : List Char}
    (all : ∀ c ∈ before, test c = true) (stops : ∀ c ∈ rest.head?, test c = false) :
    (before ++ rest).dropWhile test = rest := by
  rw [List.dropWhile_append_of_pos all]
  cases rest with
  | nil => rfl
  | cons c rest => simp [stops c rfl]

theorem head?_dropWhile (test : Char → Bool) (cs : List Char) :
    ∀ c ∈ (cs.dropWhile test).head?, test c = false := by
  intro c head
  have stopped := List.head?_dropWhile_not test cs
  rw [Option.mem_def.mp head] at stopped
  simpa using stopped

theorem trims_trimChars (cs : List Char) : Trims cs (trimChars cs) := by
  have front := List.takeWhile_append_dropWhile (p := isBlank) (l := cs)
  have stopped := head?_dropWhile isBlank cs
  rw [trimChars, dropEnd]
  generalize cs.dropWhile isBlank = rest at front stopped ⊢
  have back := congrArg List.reverse (List.takeWhile_append_dropWhile (p := isBlank) (l := rest.reverse))
  rw [List.reverse_append, List.reverse_reverse] at back
  refine ⟨⟨cs.takeWhile isBlank, (rest.reverse.takeWhile isBlank).reverse, ?_, ?_, ?_⟩, ?_, ?_⟩
  · rw [back, front]
  · intro c member
    exact List.mem_takeWhile_imp member
  · intro c member
    exact List.mem_takeWhile_imp (List.mem_reverse.mp member)
  · intro c head
    -- Only the end of the rest is cut off, so what is kept starts like the rest.
    apply stopped
    rw [Option.mem_def] at head ⊢
    rw [← back, List.head?_append, head]
    rfl
  · intro c last
    rw [List.getLast?_reverse] at last
    exact head?_dropWhile _ _ c last

/-- There is one way to trim a text. -/
theorem trims_iff {cs t : List Char} : Trims cs t ↔ t = trimChars cs := by
  constructor
  · rintro ⟨⟨before, after, rfl, blankBefore, blankAfter⟩, first, last⟩
    rw [trimChars, dropEnd]
    by_cases empty : t = []
    · subst empty
      have blank : ∀ c ∈ before ++ ([] ++ after), isBlank c = true := by
        simpa [or_imp, forall_and] using And.intro blankBefore blankAfter
      rw [List.dropWhile_eq_nil_iff.mpr blank]
      rfl
    · have firstOfBoth : ∀ c ∈ (t ++ after).head?, isBlank c = false := by
        intro c head
        rw [List.head?_append_of_ne_nil _ empty] at head
        exact first c head
      rw [dropWhile_append_of_head blankBefore firstOfBoth, List.reverse_append, dropWhile_append_of_head]
      · simp
      · simpa using blankAfter
      · simpa using last
  · rintro rfl
    exact trims_trimChars cs

end Text

namespace Number

/-- A run of digits and points is a decimal exactly if it has a digit and at most one point. -/
theorem Decimal.read?_isSome_iff {cs : List Char} (kind : ∀ c ∈ cs, c.isDigit = true ∨ c = '.') :
    (Decimal.read? cs).isSome = true ↔ (∃ c ∈ cs, c.isDigit = true) ∧ cs.count '.' ≤ 1 := by
  have whole := List.takeWhile_append_dropWhile (p := Char.isDigit) (l := cs)
  have digits : ∀ c ∈ cs.takeWhile Char.isDigit, c.isDigit = true := fun c => List.mem_takeWhile_imp
  have stopped := Text.head?_dropWhile Char.isDigit cs
  rw [Decimal.read?]
  generalize cs.takeWhile Char.isDigit = ds at *
  generalize cs.dropWhile Char.isDigit = rest at *
  subst whole
  have none : ds.count '.' = 0 := List.count_eq_zero.mpr fun member => absurd (digits _ member) (by decide)
  match rest with
  | [] =>
    rw [List.append_nil, none]
    cases ds with
    | nil => simp
    | cons d ds => simp [digits d List.mem_cons_self]
  | c :: fraction =>
    have point : c = '.' := (kind c (by simp)).resolve_left (by simp [stopped c rfl])
    subst point
    have plain : fraction.count '.' = 0 ↔ fraction.all Char.isDigit = true := by
      rw [List.all_eq_true, List.count_eq_zero]
      constructor
      · intro apart c member
        exact (kind c (by simp [member])).resolve_right fun same => apart (same ▸ member)
      · intro all member
        exact absurd (all _ member) (by decide)
    have single : 0 + (fraction.count '.' + 1) ≤ 1 ↔ fraction.all Char.isDigit = true := by
      rw [← plain]
      omega
    rw [List.count_append, none, List.count_cons_self, single]
    cases all : fraction.all Char.isDigit with
    | false => simp [all]
    | true =>
      rw [List.all_eq_true] at all
      cases ds with
      | cons d ds => simp_all
      | nil =>
        cases fraction with
        | nil => simp
        | cons d fraction => simp_all

end Number

namespace Span

open Number (Double unitsPerOne)

namespace Pair

def chars (p : Pair) : List Char := p.numeral ++ p.unit

/-- A numeral and a unit by their characters, and not both empty. -/
structure Kinds (p : Pair) : Prop where
  numeral : ∀ c ∈ p.numeral, isNumeral c = true
  unit : ∀ c ∈ p.unit, isNumeral c = false
  solid : p.chars ≠ []

/-- The runs of a text, in pairs. As neighbours have a unit and a numeral between them, no run can be longer. -/
structure Runs (cs : List Char) (ps : List Pair) : Prop where
  joined : ps.flatMap chars = cs
  kinds : ∀ p ∈ ps, p.Kinds
  joints : ps.IsChain fun p q => p.unit ≠ [] ∧ q.numeral ≠ []

theorem runs_nil : Runs [] [] := ⟨rfl, by simp, .nil⟩

section

variable {c : Char}

theorem push_numeral_nil (kind : isNumeral c = true) : push c [] = [⟨[c], []⟩] := by
  simp [push, kind]

theorem push_numeral_cons (kind : isNumeral c = true) (p : Pair) (ps : List Pair) :
    push c (p :: ps) = ⟨c :: p.numeral, p.unit⟩ :: ps := by
  simp [push, kind]

theorem push_unit_open (kind : isNumeral c = false) (u : List Char) (ps : List Pair) :
    push c (⟨[], u⟩ :: ps) = ⟨[], c :: u⟩ :: ps := by
  simp [push, kind]

/-- Before a numeral, and at the end, a unit begins a pair. -/
theorem push_unit (kind : isNumeral c = false) {ps : List Pair} (next : ∀ p ∈ ps.head?, p.numeral ≠ []) :
    push c ps = ⟨[], [c]⟩ :: ps := by
  match ps with
  | [] => simp [push, kind]
  | ⟨[], _⟩ :: _ => exact absurd rfl (next _ rfl)
  | ⟨_ :: _, _⟩ :: _ => simp [push, kind]

end

theorem runs_push {c : Char} {cs : List Char} {ps : List Pair} (runs : Runs cs ps) : Runs (c :: cs) (push c ps) := by
  obtain ⟨rfl, kinds, joints⟩ := runs
  cases kind : isNumeral c with
  | true =>
    cases ps with
    | nil =>
      rw [push_numeral_nil kind]
      exact ⟨by simp [chars], by simpa using ⟨by simp [kind], by simp, by simp [chars]⟩, .singleton _⟩
    | cons p ps =>
      rw [push_numeral_cons kind]
      rw [List.forall_mem_cons] at kinds
      rw [List.isChain_cons] at joints
      obtain ⟨numeral, unit, -⟩ := kinds.1
      have first : Kinds ⟨c :: p.numeral, p.unit⟩ :=
        ⟨List.forall_mem_cons.mpr ⟨kind, numeral⟩, unit, List.cons_ne_nil _ _⟩
      exact ⟨rfl, List.forall_mem_cons.mpr ⟨first, kinds.2⟩, List.isChain_cons.mpr joints⟩
  | false =>
    match ps with
    | ⟨[], u⟩ :: ps =>
      rw [push_unit_open kind]
      rw [List.forall_mem_cons] at kinds
      rw [List.isChain_cons] at joints
      have first : Kinds ⟨[], c :: u⟩ :=
        ⟨by simp, List.forall_mem_cons.mpr ⟨kind, kinds.1.unit⟩, List.cons_ne_nil _ _⟩
      refine ⟨rfl, List.forall_mem_cons.mpr ⟨first, kinds.2⟩, List.isChain_cons.mpr ⟨?_, joints.2⟩⟩
      intro q head
      exact ⟨List.cons_ne_nil _ _, (joints.1 q head).2⟩
    | [] =>
      rw [push_unit kind (by simp)]
      exact ⟨by simp [chars], by simpa using ⟨by simp, by simp [kind], by simp [chars]⟩, .singleton _⟩
    | ⟨d :: n, u⟩ :: ps =>
      rw [push_unit kind (by simp)]
      have first : Kinds ⟨[], [c]⟩ := ⟨by simp, by simp [kind], by simp [chars]⟩
      exact ⟨rfl, List.forall_mem_cons.mpr ⟨first, kinds⟩, .cons_cons (by simp) joints⟩

theorem runs_split (cs : List Char) : Runs cs (split cs) := by
  induction cs with
  | nil => exact runs_nil
  | cons c cs ih => exact runs_push ih

theorem foldr_push_unit {u : List Char} {ps : List Pair} (kind : ∀ c ∈ u, isNumeral c = false) (some : u ≠ [])
    (next : ∀ p ∈ ps.head?, p.numeral ≠ []) : u.foldr push ps = ⟨[], u⟩ :: ps := by
  induction u with
  | nil => exact absurd rfl some
  | cons c u ih =>
    have first : isNumeral c = false := kind c List.mem_cons_self
    rw [List.foldr_cons]
    by_cases last : u = []
    · rw [last, List.foldr_nil, push_unit first next]
    · rw [ih (fun d member => kind d (List.mem_cons_of_mem c member)) last, push_unit_open first]

theorem foldr_push_numeral {n : List Char} {p : Pair} {ps : List Pair} (kind : ∀ c ∈ n, isNumeral c = true) :
    n.foldr push (p :: ps) = ⟨n ++ p.numeral, p.unit⟩ :: ps := by
  induction n with
  | nil => rfl
  | cons c n ih =>
    rw [List.foldr_cons, ih fun d member => kind d (List.mem_cons_of_mem c member),
      push_numeral_cons (kind c List.mem_cons_self), List.cons_append]

/-- The last run of a text may be a numeral. -/
theorem foldr_push_last {n : List Char} (kind : ∀ c ∈ n, isNumeral c = true) (some : n ≠ []) :
    n.foldr push [] = [⟨n, []⟩] := by
  obtain ⟨front, c, rfl⟩ := (List.eq_nil_or_concat n).resolve_left some
  rw [List.concat_eq_append] at kind ⊢
  rw [List.foldr_append, List.foldr_cons, List.foldr_nil, push_numeral_nil (kind c (by simp)), foldr_push_numeral]
  intro d member
  exact kind d (List.mem_append_left _ member)

theorem Kinds.foldr_push {p : Pair} {ps : List Pair} (kinds : p.Kinds)
    (joint : ∀ q ∈ ps.head?, p.unit ≠ [] ∧ q.numeral ≠ []) : p.chars.foldr push ps = p :: ps := by
  obtain ⟨numeral, unit, solid⟩ := kinds
  rw [chars, List.foldr_append]
  by_cases last : p.unit = []
  · cases ps with
    | cons q ps => exact absurd last (joint q rfl).1
    | nil =>
      rw [chars, last, List.append_nil] at solid
      rw [last, List.foldr_nil, foldr_push_last numeral solid, ← last]
  · rw [foldr_push_unit unit last fun q head => (joint q head).2, foldr_push_numeral numeral, List.append_nil]

/-- A text has one division into runs. -/
theorem runs_iff {cs : List Char} {ps : List Pair} : Runs cs ps ↔ ps = split cs := by
  constructor
  · rintro ⟨rfl, kinds, joints⟩
    induction ps with
    | nil => rfl
    | cons p ps ih =>
      rw [List.isChain_cons] at joints
      rw [List.forall_mem_cons] at kinds
      rw [List.flatMap_cons, split, List.foldr_append, ← split, ← ih kinds.2 joints.2, kinds.1.foldr_push joints.1]
  · rintro rfl
    exact runs_split cs

end Pair

def unitNames : List (List Char) := [['h'], ['m'], ['s'], ['m', 's'], ['u', 's'], ['µ', 's'], ['n', 's']]

theorem unitSeconds_isSome_iff {unit : List Char} : (unitSeconds unit).isSome = true ↔ unit ∈ unitNames := by
  simp only [unitSeconds, unitNames, List.mem_cons, List.not_mem_nil, or_false]
  split_ifs <;> simp_all [← or_assoc]

theorem not_mem_unitNames_nil : [] ∉ unitNames := by decide

namespace Pair

def Numbered (p : Pair) : Prop := (∃ c ∈ p.numeral, c.isDigit = true) ∧ p.numeral.count '.' ≤ 1

def Formed (p : Pair) : Prop := p.Numbered ∧ p.unit ∈ unitNames

/-- What is wrong with a pair; the numeral is looked at first. -/
inductive Faulty (text : String) (p : Pair) : Unreadable → Prop
  | numeral (malformed : ¬ p.Numbered) : Faulty text p (.invalid text)
  | unitless (numbered : p.Numbered) (missing : p.unit = []) : Faulty text p (.invalid text)
  | unknown (numbered : p.Numbered) (given : p.unit ≠ []) (unlisted : p.unit ∉ unitNames) :
    Faulty text p (.unknownUnit (String.ofList p.unit) text)

def worth (p : Pair) : Double :=
  match Number.Decimal.read? p.numeral, unitSeconds p.unit with
  | some d, some seconds => .ofDecimal d.digits d.places * seconds
  | _, _ => .zero

variable {text : String} {p : Pair}

theorem Faulty.unformed {e : Unreadable} (faulty : p.Faulty text e) : ¬ p.Formed := by
  rintro ⟨numbered, listed⟩
  cases faulty with
  | numeral malformed => exact malformed numbered
  | unitless _ missing => exact not_mem_unitNames_nil (missing ▸ listed)
  | unknown _ _ unlisted => exact unlisted listed

theorem Faulty.ne_empty {e : Unreadable} (faulty : p.Faulty text e) : e ≠ .empty := by
  cases faulty <;> simp

theorem Kinds.numbered_iff (kinds : p.Kinds) : p.Numbered ↔ (Number.Decimal.read? p.numeral).isSome = true := by
  rw [Numbered, Number.Decimal.read?_isSome_iff]
  intro c member
  simpa [isNumeral] using kinds.numeral c member

theorem Kinds.seconds_cases (kinds : p.Kinds) (text : String) :
    (p.Formed ∧ p.seconds text = .ok p.worth) ∨ ∃ e, p.Faulty text e ∧ p.seconds text = .error e := by
  rw [Formed, ← unitSeconds_isSome_iff]
  rw [seconds, worth]
  cases number : Number.Decimal.read? p.numeral with
  | none => exact .inr ⟨_, .numeral (by simp [kinds.numbered_iff, number]), rfl⟩
  | some d =>
    have numbered : p.Numbered := by simp [kinds.numbered_iff, number]
    cases unit : unitSeconds p.unit with
    | some seconds => exact .inl ⟨⟨numbered, rfl⟩, rfl⟩
    | none =>
      have unlisted : p.unit ∉ unitNames := by simp [← unitSeconds_isSome_iff, unit]
      by_cases missing : p.unit = []
      · exact .inr ⟨_, .unitless numbered missing, by simp [missing]⟩
      · exact .inr ⟨_, .unknown numbered missing unlisted, by simp [missing]⟩

end Pair

def total (ps : List Pair) : Double := ps.foldl (fun sum p => sum + p.worth) .zero

theorem addPairs_of_formed (text : String) {ps : List Pair} (kinds : ∀ p ∈ ps, p.Kinds) (formed : ∀ p ∈ ps, p.Formed)
    (sum : Double) : addPairs text sum ps = .ok (ps.foldl (fun sum p => sum + p.worth) sum) := by
  induction ps generalizing sum with
  | nil => rfl
  | cons p ps ih =>
    rw [List.forall_mem_cons] at kinds formed
    obtain ⟨-, counted⟩ | ⟨e, faulty, -⟩ := kinds.1.seconds_cases text
    · rw [addPairs, counted]
      exact ih kinds.2 formed.2 _
    · exact absurd formed.1 faulty.unformed

/-- The first pair that is not well formed decides. -/
theorem addPairs_of_faulty {text : String} {before after : List Pair} {p : Pair} {e : Unreadable}
    (kinds : ∀ q ∈ before, q.Kinds) (formed : ∀ q ∈ before, q.Formed) (refused : p.seconds text = .error e)
    (sum : Double) : addPairs text sum (before ++ p :: after) = .error e := by
  induction before generalizing sum with
  | nil =>
    rw [List.nil_append, addPairs, refused]
    rfl
  | cons q before ih =>
    rw [List.forall_mem_cons] at kinds formed
    obtain ⟨-, counted⟩ | ⟨_, faulty, -⟩ := kinds.1.seconds_cases text
    · rw [List.cons_append, addPairs, counted]
      exact ih kinds.2 formed.2 _
    · exact absurd formed.1 faulty.unformed

theorem formed_or_unformed (ps : List Pair) : (∀ p ∈ ps, p.Formed) ∨
    ∃ before p after, ps = before ++ p :: after ∧ (∀ q ∈ before, q.Formed) ∧ ¬ p.Formed := by
  induction ps with
  | nil => exact .inl (by simp)
  | cons p ps ih =>
    by_cases formed : p.Formed
    · obtain all | ⟨before, q, after, rfl, first, unformed⟩ := ih
      · exact .inl (List.forall_mem_cons.mpr ⟨formed, all⟩)
      · exact .inr ⟨p :: before, q, after, rfl, List.forall_mem_cons.mpr ⟨formed, first⟩, unformed⟩
    · exact .inr ⟨[], p, ps, rfl, by simp, formed⟩

def TooLong : Double → Prop
  | .infinite => True
  | .finite units => 2 ^ 64 * unitsPerOne ≤ units

theorem ofDouble?_of_tooLong {sum : Double} (long : TooLong sum) : ofDouble? sum = none := by
  cases sum with
  | infinite => rfl
  | finite units => exact if_neg (Nat.not_lt.mpr long)

theorem ofDouble?_of_not_tooLong {sum : Double} (short : ¬ TooLong sum) :
    ∃ units, sum = .finite units ∧
      ofDouble? sum = some ⟨Number.roundDiv (units * nanosPerSecond) unitsPerOne⟩ := by
  cases sum with
  | infinite => exact absurd trivial short
  | finite units => exact ⟨units, rfl, if_pos (Nat.not_le.mp short)⟩

section

variable {text : String} (given : Text.trimChars text.toList ≠ []) (other : Text.trimChars text.toList ≠ ['0'])

include given other

theorem read_of_error {e : Unreadable}
    (refused : addPairs text .zero (Pair.split (Text.trimChars text.toList)) = .error e) :
    read text = .error e := by
  rw [read, if_neg (by simpa using given), if_neg other, refused]
  rfl

theorem read_of_sum {sum : Double}
    (added : addPairs text .zero (Pair.split (Text.trimChars text.toList)) = .ok sum) :
    read text = match ofDouble? sum with
      | some span => .ok span
      | none => .error (.invalid text) := by
  rw [read, if_neg (by simpa using given), if_neg other, added]
  change (match ofDouble? sum with
    | some span => pure span
    | none => (.error (.invalid text) : Except Unreadable Span)) = _
  cases ofDouble? sum <;> rfl

theorem read_of_formed (formed : ∀ p ∈ Pair.split (Text.trimChars text.toList), p.Formed) :
    (TooLong (total (Pair.split (Text.trimChars text.toList))) → read text = .error (.invalid text)) ∧
      (¬ TooLong (total (Pair.split (Text.trimChars text.toList))) →
        ∃ units, total (Pair.split (Text.trimChars text.toList)) = .finite units ∧
          read text = .ok ⟨Number.roundDiv (units * nanosPerSecond) unitsPerOne⟩) := by
  have kinds := (Pair.runs_split (Text.trimChars text.toList)).kinds
  rw [read_of_sum given other (addPairs_of_formed _ kinds formed _), ← total]
  constructor
  · intro long
    rw [ofDouble?_of_tooLong long]
  · intro short
    obtain ⟨units, finite, rounded⟩ := ofDouble?_of_not_tooLong short
    exact ⟨units, finite, by rw [rounded]⟩

theorem read_of_unformed {before after : List Pair} {p : Pair}
    (divided : Pair.split (Text.trimChars text.toList) = before ++ p :: after) (formed : ∀ q ∈ before, q.Formed)
    (unformed : ¬ p.Formed) : ∃ e, p.Faulty text e ∧ read text = .error e := by
  have kinds := (Pair.runs_split (Text.trimChars text.toList)).kinds
  rw [divided, List.forall_mem_append, List.forall_mem_cons] at kinds
  obtain ⟨wellFormed, -⟩ | ⟨e, faulty, told⟩ := kinds.2.1.seconds_cases text
  · exact absurd wellFormed unformed
  · refine ⟨e, faulty, read_of_error given other ?_⟩
    rw [divided]
    exact addPairs_of_faulty kinds.1 formed told _

theorem read_ne_empty : read text ≠ .error .empty := by
  intro empty
  obtain formed | ⟨before, p, after, divided, first, unformed⟩ :=
    formed_or_unformed (Pair.split (Text.trimChars text.toList))
  · obtain ⟨long, short⟩ := read_of_formed given other formed
    by_cases tooLong : TooLong (total (Pair.split (Text.trimChars text.toList)))
    · simp [long tooLong] at empty
    · obtain ⟨_, -, read⟩ := short tooLong
      simp [read] at empty
  · obtain ⟨e, faulty, refused⟩ := read_of_unformed given other divided first unformed
    exact faulty.ne_empty (Except.error.inj (refused.symm.trans empty))

end

/-- A text is trimmed in one way and divided into runs in one way. Unless nothing is left, or a lone zero, the
pairs of runs decide: by the first that is not well formed, and else by the sum of all, which is rounded to
nanoseconds. -/
theorem read_by_pairs (text : String) :
    ∃ t ps, (∀ t', Text.Trims text.toList t' ↔ t' = t) ∧ (∀ ps', Pair.Runs t ps' ↔ ps' = ps) ∧
      (read text = .error .empty ↔ t = []) ∧ (t = ['0'] → read text = .ok zero) ∧
      (t ≠ [] → t ≠ ['0'] →
        ((∀ p ∈ ps, p.Formed) →
          (TooLong (total ps) → read text = .error (.invalid text)) ∧
          (¬ TooLong (total ps) → ∃ units, total ps = .finite units ∧
            read text = .ok ⟨Number.roundDiv (units * nanosPerSecond) unitsPerOne⟩)) ∧
        ∀ before p after, ps = before ++ p :: after → (∀ q ∈ before, q.Formed) → ¬ p.Formed →
          ∃ e, p.Faulty text e ∧ read text = .error e) := by
  have zero : Text.trimChars text.toList = ['0'] → read text = .ok zero := by
    intro lone
    rw [read, lone]
    rfl
  have empty : read text = .error .empty ↔ Text.trimChars text.toList = [] := by
    constructor
    · intro empty
      by_contra given
      by_cases lone : Text.trimChars text.toList = ['0']
      · simp [zero lone] at empty
      · exact read_ne_empty given lone empty
    · intro nothing
      rw [read, nothing]
      rfl
  refine ⟨_, _, fun _ => Text.trims_iff, fun _ => Pair.runs_iff, empty, zero, fun given other => ⟨?_, ?_⟩⟩
  · exact read_of_formed given other
  · intro before p after
    exact read_of_unformed given other

example : read "\u00a01h.5parsec" = .error (.unknownUnit "parsec" "\u00a01h.5parsec") := by decide +kernel

end Span
end Stowage
