import Stowage.Proofs.Reference

/-! What references are written with. Names and digests are visible ASCII, and only a tag can have letters from
beyond. Letters in upper case are found in the domain of a name alone, and a domain without dots and ports is a
component unless it has one. -/
namespace Stowage

namespace Text

theorem isUpper_iff {c : Char} : c.isUpper = true ↔ 65 ≤ c.toNat ∧ c.toNat ≤ 90 := by
  delta Char.isUpper
  simp [UInt32.le_iff_toNat_le]

theorem isAlphanum_iff {c : Char} : c.isAlphanum = true ↔
    48 ≤ c.toNat ∧ c.toNat ≤ 57 ∨ 65 ≤ c.toNat ∧ c.toNat ≤ 90 ∨ 97 ≤ c.toNat ∧ c.toNat ≤ 122 := by
  delta Char.isAlphanum Char.isAlpha Char.isUpper Char.isLower Char.isDigit
  simp only [UInt32.le_iff_toNat_le, ge_iff_le, Char.toNat_val, Char.reduceToNat, Bool.or_eq_true,
    Bool.and_eq_true, decide_eq_true_eq]
  omega

def isVisible (c : Char) : Bool := 0x20 < c.toNat && c.toNat < 0x7f

theorem isVisible_iff {c : Char} : isVisible c = true ↔ 0x20 < c.toNat ∧ c.toNat < 0x7f := by
  simp [isVisible]

theorem isVisible_of_isAlphanum {c : Char} (h : c.isAlphanum = true) : isVisible c = true := by
  rw [isAlphanum_iff] at h
  rw [isVisible_iff]
  omega

end Text

namespace Reference

theorem isLower_iff {c : Char} :
    isLower c = true ↔ 48 ≤ c.toNat ∧ c.toNat ≤ 57 ∨ 97 ≤ c.toNat ∧ c.toNat ≤ 122 := by
  simp only [isLower, Char.isDigit, Char.le_def, UInt32.le_iff_toNat_le, ge_iff_le, Char.toNat_val,
    Char.reduceToNat, Bool.or_eq_true, Bool.and_eq_true, decide_eq_true_eq]
  omega

theorem isUpper_eq_false_of_isLower {c : Char} (h : isLower c = true) : c.isUpper = false := by
  rw [isLower_iff] at h
  rw [Bool.eq_false_iff, ne_eq, Text.isUpper_iff]
  omega

def isMark (c : Char) : Bool := c = '.' || c = '_' || c = '-'

theorem next?_char {last next : Last} {c : Char} (h : last.next? c = some next) :
    isLower c = true ∨ isMark c = true := by
  unfold Last.next? at h
  simp only [isMark]
  grind

theorem isComponent_chars {cs : List Char} (h : isComponent cs = true) :
    ∀ c ∈ cs, isLower c = true ∨ isMark c = true := by
  suffices general : ∀ last, componentRest last cs = true → ∀ c ∈ cs, isLower c = true ∨ isMark c = true from
    general .start h
  clear h
  induction cs with
  | nil => simp
  | cons c cs ih =>
    intro last valid x member
    unfold componentRest at valid
    split at valid
    next next step =>
      rcases List.mem_cons.mp member with rfl | later
      · exact next?_char step
      · exact ih next valid x later
    next => cases valid

theorem isComponent_no_upper {cs : List Char} (h : isComponent cs = true) : ∀ c ∈ cs, c.isUpper = false := by
  intro c member
  rcases isComponent_chars h c member with lower | mark
  · exact isUpper_eq_false_of_isLower lower
  · simp only [isMark, Bool.or_eq_true, decide_eq_true_eq] at mark
    rcases mark with (rfl | rfl) | rfl <;> rfl

/-- Behind a letter or a dash, letters and dashes that end with a letter end a component. -/
theorem componentRest_of_dashes {last : Last} (state : last = .plain ∨ last = .dash) {cs : List Char}
    (chars : ∀ c ∈ cs, isLower c = true ∨ c = '-') (ends : ∀ c, cs.getLast? = some c → isLower c = true)
    (closed : cs = [] → last = .plain) : componentRest last cs = true := by
  induction cs generalizing last with
  | nil => simp [componentRest, closed rfl]
  | cons c cs ih =>
    have later : ∀ x ∈ cs, isLower x = true ∨ x = '-' := fun x member => chars x (.tail _ member)
    have last_later : ∀ x, cs.getLast? = some x → isLower x = true := fun x final =>
      ends x (by simp [List.getLast?_cons, final])
    rcases chars c (.head _) with lower | rfl
    · have step : last.next? c = some .plain := by simp [Last.next?, lower]
      rw [componentRest, step]
      exact ih (.inl rfl) later last_later fun _ => rfl
    · have step : last.next? '-' = some .dash := by rcases state with rfl | rfl <;> rfl
      rw [componentRest, step]
      refine ih (.inr rfl) later last_later fun final => ?_
      subst final
      exact absurd (ends '-' rfl) (by decide)

theorem isComponent_of_isLabel {cs : List Char} (label : isLabel cs = true)
    (lowered : ∀ c ∈ cs, c.isUpper = false) : isComponent cs = true := by
  simp only [isLabel, Bool.and_eq_true, List.all_eq_true, Bool.or_eq_true, decide_eq_true_eq,
    Option.any_eq_true] at label
  obtain ⟨⟨chars, first, head, headed⟩, final, tail, tailed⟩ := label
  have lower : ∀ c ∈ cs, c.isAlphanum = true → isLower c = true := by
    intro c member letter
    have plain := lowered c member
    rw [Bool.eq_false_iff, ne_eq, Text.isUpper_iff] at plain
    rw [Text.isAlphanum_iff] at letter
    rw [isLower_iff]
    omega
  cases cs with
  | nil => cases head
  | cons c cs =>
    obtain rfl : c = first := Option.some.inj head
    have step : Last.start.next? c = some .plain := by simp [Last.next?, lower c (.head _) headed]
    rw [isComponent, componentRest, step]
    refine componentRest_of_dashes (.inl rfl) (fun x member => ?_) (fun x last => ?_) fun _ => rfl
    · exact (chars x (.tail _ member)).imp_left (lower x (.tail _ member))
    · have same : final = x := by
        rw [List.getLast?_cons, last] at tail
        exact (Option.some.inj tail).symm
      exact lower x (.tail _ (List.mem_of_getLast? last)) (same ▸ tailed)

theorem isDomain_of_flat {cs : List Char} (undotted : '.' ∉ cs) (portless : ':' ∉ cs) :
    isDomain cs = isLabel cs := by
  rw [isDomain, Text.cutAt_eq_none_iff.mpr ⟨rfl, portless⟩]
  simp [Text.splitOn_of_none undotted]

theorem isDomain_chars {cs : List Char} (h : isDomain cs = true) :
    ∀ c ∈ cs, c.isAlphanum = true ∨ c = '-' ∨ c = '.' ∨ c = ':' := by
  obtain ⟨⟨name, port⟩, cut⟩ : ∃ parts, Text.cutAt ':' cs = parts := ⟨_, rfl⟩
  rw [isDomain, cut, Bool.and_eq_true] at h
  have named : ∀ c ∈ name, c.isAlphanum = true ∨ c = '-' ∨ c = '.' := by
    intro c member
    by_cases dot : c = '.'
    · exact .inr (.inr dot)
    · obtain ⟨label, there, within⟩ := Text.mem_splitOn dot member
      have sound := List.all_eq_true.mp h.1 label there
      simp only [isLabel, Bool.and_eq_true, List.all_eq_true, Bool.or_eq_true, decide_eq_true_eq] at sound
      exact (sound.1.1 c within).imp_right .inl
  intro c member
  cases port with
  | none =>
    obtain ⟨rfl, -⟩ := Text.cutAt_eq_none_iff.mp cut
    exact (named c member).imp_right fun marks => marks.imp_right .inl
  | some ds =>
    obtain ⟨rfl, -⟩ := Text.cutAt_eq_some_iff.mp cut
    simp only [Bool.and_eq_true, List.all_eq_true] at h
    rcases List.mem_append.mp member with before | later
    · exact (named c before).imp_right fun marks => marks.imp_right .inl
    · rcases List.mem_cons.mp later with colon | digit
      · exact .inr (.inr (.inr colon))
      · exact .inl (by simp [Char.isAlphanum, h.2.2 c digit])

theorem isName_parts {cs : List Char} (h : isName cs = true) :
    ∀ part ∈ Text.splitOn '/' cs, isComponent part = true ∨ isDomain part = true := by
  unfold isName at h
  split at h
  next none => simp [none]
  next only alone =>
    rw [alone]
    simpa using .inl h
  next first rest _ several =>
    simp only [Bool.and_eq_true, Bool.or_eq_true, List.all_eq_true] at h
    rw [several]
    intro part member
    rcases List.mem_cons.mp member with rfl | later
    · exact h.1
    · exact .inl (h.2 part later)

def isNameChar (c : Char) : Bool := c.isAlphanum || isMark c || c = ':' || c = '/'

theorem isName_chars {cs : List Char} (h : isName cs = true) : ∀ c ∈ cs, isNameChar c = true := by
  intro c member
  simp only [isNameChar, Bool.or_eq_true, decide_eq_true_eq]
  by_cases slash : c = '/'
  · exact .inr slash
  · obtain ⟨part, there, within⟩ := Text.mem_splitOn slash member
    rcases isName_parts h part there with component | domain
    · rcases isComponent_chars component c within with lower | mark
      · rw [isLower_iff] at lower
        rw [Text.isAlphanum_iff]
        omega
      · exact .inl (.inl (.inr mark))
    · rcases isDomain_chars domain c within with plain | dash | dot | colon
      · exact .inl (.inl (.inl plain))
      · exact .inl (.inl (.inr (by simp [isMark, dash])))
      · exact .inl (.inl (.inr (by simp [isMark, dot])))
      · exact .inl (.inr colon)

theorem isVisible_of_isNameChar {c : Char} (h : isNameChar c = true) : Text.isVisible c = true := by
  simp only [isNameChar, isMark, Bool.or_eq_true, decide_eq_true_eq] at h
  rcases h with ((plain | (rfl | rfl) | rfl) | rfl) | rfl
  · exact Text.isVisible_of_isAlphanum plain
  all_goals rfl

theorem isName_no_at {cs : List Char} (h : isName cs = true) : '@' ∉ cs := fun member => by
  have told := isName_chars h '@' member
  revert told
  decide

theorem isDigest_visible {cs : List Char} (h : isDigest cs = true) : ∀ c ∈ cs, Text.isVisible c = true := by
  intro c member
  have plain (letter : c.isAlphanum = true) := Text.isVisible_of_isAlphanum letter
  rcases isDigest_chars h c member with letter | digit | mark
  · exact plain (by simp [Char.isAlphanum, letter])
  · refine plain (Text.isAlphanum_iff.mpr ?_)
    simp only [isHexDigit, Char.isDigit, Char.le_def, UInt32.le_iff_toNat_le, ge_iff_le, Char.toNat_val,
      Char.reduceToNat, Bool.or_eq_true, Bool.and_eq_true, decide_eq_true_eq] at digit
    omega
  · simp only [String.reduceToList, List.mem_cons, List.not_mem_nil, or_false] at mark
    rcases mark with rfl | rfl | rfl | rfl | rfl <;> rfl

theorem isTag_chars {cs : List Char} (h : isTag cs = true) :
    ∀ c ∈ cs, Text.isVisible c = true ∨ 0x80 ≤ c.toNat ∧ Text.isWord c = true := by
  intro c member
  have char := isTagChar_of_isTag h c member
  simp only [isTagChar, Bool.or_eq_true, decide_eq_true_eq] at char
  rcases char with (word | rfl) | rfl
  · by_cases ascii : c.toNat < 0x80
    · simp only [Text.isWord, ascii, if_true, Text.isAsciiWord, Bool.or_eq_true, decide_eq_true_eq] at word
      rcases word with plain | rfl
      · exact .inl (Text.isVisible_of_isAlphanum plain)
      · exact .inl rfl
    · exact .inr ⟨Nat.not_lt.mp ascii, word⟩
  all_goals exact .inl rfl

end Reference
end Stowage
