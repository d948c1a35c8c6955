import Stowage.Text.Split

/-! Texts cut at a separator: where they are cut, and that what is put together around a separator comes apart
there again. -/
namespace Stowage.Text

@[simp] theorem cutAt_nil (c : Char) : cutAt c [] = ([], none) := rfl

@[simp] theorem cutAt_cons_same (c : Char) (cs : List Char) : cutAt c (c :: cs) = ([], some cs) := by
  simp [cutAt, cut]

theorem cutAt_cons_other {c x : Char} (differ : x ≠ c) (cs : List Char) :
    cutAt c (x :: cs) = (x :: (cutAt c cs).1, (cutAt c cs).2) := by
  simp only [cutAt, cut, differ, decide_false, Bool.not_false, List.takeWhile_cons_of_pos,
    List.dropWhile_cons_of_pos]
  cases cs.dropWhile fun c_1 => !decide (c_1 = c) <;> rfl

/-- A text is cut at the first character of the kind. -/
theorem cutAt_eq_some_iff {c : Char} {cs before after : List Char} :
    cutAt c cs = (before, some after) ↔ cs = before ++ c :: after ∧ c ∉ before := by
  induction cs generalizing before with
  | nil => simp
  | cons x cs ih =>
    by_cases same : x = c
    · subst same
      rw [cutAt_cons_same]
      cases before with
      | nil => simp
      | cons y before =>
        simp only [Prod.mk.injEq, List.nil_eq, reduceCtorEq, false_and, List.cons_append, List.cons.injEq,
          List.mem_cons, not_or, false_iff, not_and]
        rintro ⟨head, -⟩ differ
        exact absurd head differ
    · rw [cutAt_cons_other same]
      cases before with
      | nil => simp [same]
      | cons y before =>
        have tail : (cutAt c cs).1 = before ∧ (cutAt c cs).2 = some after ↔
            cs = before ++ c :: after ∧ c ∉ before := Prod.mk.injEq .. ▸ ih
        simp only [Prod.mk.injEq, List.cons.injEq, List.cons_append, List.mem_cons, not_or]
        constructor
        · rintro ⟨⟨rfl, first⟩, second⟩
          obtain ⟨whole, apart⟩ := tail.mp ⟨first, second⟩
          exact ⟨⟨rfl, whole⟩, Ne.symm same, apart⟩
        · rintro ⟨⟨rfl, whole⟩, -, apart⟩
          obtain ⟨first, second⟩ := tail.mpr ⟨whole, apart⟩
          exact ⟨⟨rfl, first⟩, second⟩

theorem cutAt_eq_none_iff {c : Char} {cs before : List Char} :
    cutAt c cs = (before, none) ↔ before = cs ∧ c ∉ cs := by
  induction cs generalizing before with
  | nil => simp [eq_comm]
  | cons x cs ih =>
    by_cases same : x = c
    · subst same
      simp
    · rw [cutAt_cons_other same]
      have tail : (cutAt c cs).2 = none ↔ c ∉ cs ∧ (cutAt c cs).1 = cs := by
        rw [and_comm, ← ih, Prod.ext_iff]
        simp
      simp only [Prod.mk.injEq, List.mem_cons, not_or, tail]
      constructor
      · rintro ⟨rfl, apart, whole⟩
        exact ⟨by rw [whole], Ne.symm same, apart⟩
      · rintro ⟨rfl, -, apart⟩
        have whole := (ih.mpr ⟨rfl, apart⟩)
        exact ⟨by rw [whole], apart, by rw [whole]⟩

/-- Of two places in a list, one is before the other, or they are the same. -/
theorem append_cons_cases {α : Type} {x y : α} {xs ys zs ws : List α} (same : xs ++ x :: ys = zs ++ y :: ws) :
    (xs = zs ∧ x = y ∧ ys = ws) ∨ (∃ between, zs = xs ++ x :: between ∧ ys = between ++ y :: ws) ∨
      ∃ between, xs = zs ++ y :: between ∧ ws = between ++ x :: ys := by
  rcases List.append_eq_append_iff.mp same with ⟨between, rfl, tail⟩ | ⟨between, rfl, tail⟩
  · cases between with
    | nil =>
      obtain ⟨rfl, rfl⟩ := List.cons.inj tail
      exact .inl ⟨(List.append_nil xs).symm, rfl, rfl⟩
    | cons z between =>
      obtain ⟨rfl, rfl⟩ := List.cons.inj tail
      exact .inr (.inl ⟨between, rfl, rfl⟩)
  · cases between with
    | nil =>
      obtain ⟨rfl, rfl⟩ := List.cons.inj tail
      exact .inl ⟨List.append_nil zs, rfl, rfl⟩
    | cons z between =>
      obtain ⟨rfl, rfl⟩ := List.cons.inj tail
      exact .inr (.inr ⟨between, rfl, rfl⟩)

/-- A text is cut at any character of the kind that no second one follows. -/
theorem cutAt_last {c : Char} {xs ys before after : List Char}
    (cuts : cutAt c (xs ++ c :: ys) = (before, some after)) (alone : c ∉ after) :
    before = xs ∧ after = ys := by
  obtain ⟨whole, apart⟩ := cutAt_eq_some_iff.mp cuts
  -- Were the two places different, one of them would lie on the wrong side of the other.
  rcases append_cons_cases whole with ⟨rfl, -, rfl⟩ | ⟨between, rfl, -⟩ | ⟨between, -, rfl⟩
  · exact ⟨rfl, rfl⟩
  · exact absurd (by simp) apart
  · exact absurd (by simp) alone

/-- The first part ends at the first separator. -/
theorem splitOn_append {c : Char} {xs : List Char} (apart : c ∉ xs) (ys : List Char) :
    splitOn c (xs ++ c :: ys) = xs :: splitOn c ys := by
  induction xs with
  | nil => simp [splitOn]
  | cons x xs ih =>
    rw [List.mem_cons, not_or] at apart
    simp [splitOn, Ne.symm apart.1, ih apart.2]

theorem splitOn_of_none {separator : Char} {cs : List Char} (apart : separator ∉ cs) :
    splitOn separator cs = [cs] := by
  induction cs with
  | nil => rfl
  | cons c cs ih =>
    obtain ⟨differ, later⟩ := not_or.mp (mt List.mem_cons.mpr apart)
    simp [splitOn, Ne.symm differ, ih later]

/-- All but the separators is in one of the parts. -/
theorem mem_splitOn {c x : Char} (differ : x ≠ c) {cs : List Char} (member : x ∈ cs) :
    ∃ part ∈ splitOn c cs, x ∈ part := by
  induction cs with
  | nil => cases member
  | cons y cs ih =>
    unfold splitOn
    split
    next same =>
      rcases List.mem_cons.mp member with rfl | later
      · exact absurd same differ
      · obtain ⟨part, there, within⟩ := ih later
        exact ⟨part, List.mem_cons_of_mem _ there, within⟩
    next other =>
      split
      next first rest parts =>
        rw [parts] at ih
        rcases List.mem_cons.mp member with rfl | later
        · exact ⟨_, List.mem_cons_self, List.mem_cons_self⟩
        · obtain ⟨part, there, within⟩ := ih later
          rcases List.mem_cons.mp there with rfl | there
          · exact ⟨_, List.mem_cons_self, List.mem_cons_of_mem _ within⟩
          · exact ⟨part, List.mem_cons_of_mem _ there, within⟩
      next none =>
        rw [none] at ih
        rcases List.mem_cons.mp member with rfl | later
        · exact ⟨_, List.mem_cons_self, List.mem_cons_self⟩
        · obtain ⟨_, there, _⟩ := ih later
          cases there

theorem splitOn_ne_nil (separator : Char) (cs : List Char) : splitOn separator cs ≠ [] := by
  cases cs with
  | nil => simp [splitOn]
  | cons c cs =>
    unfold splitOn
    split
    · simp
    · split <;> simp

theorem mem_of_mem_splitOn {separator c : Char} {cs part : List Char} (there : part ∈ splitOn separator cs)
    (member : c ∈ part) : c ∈ cs := by
  induction cs generalizing part with
  | nil =>
    rw [splitOn, List.mem_singleton] at there
    rwa [there] at member
  | cons x cs ih =>
    unfold splitOn at there
    split at there
    · rcases List.mem_cons.mp there with rfl | later
      · cases member
      · exact .tail _ (ih later member)
    · split at there
      next first rest parts =>
        rw [parts] at ih
        rcases List.mem_cons.mp there with rfl | later
        · rcases List.mem_cons.mp member with rfl | within
          · exact .head _
          · exact .tail _ (ih (.head _) within)
        · exact .tail _ (ih (.tail _ later) member)
      next none => exact absurd none (splitOn_ne_nil separator cs)

/-- A list is what stands before its last run of such elements, and the run. -/
theorem take_append_run {α : Type} (test : α → Bool) (xs : List α) :
    xs.take (xs.length - (xs.reverse.takeWhile test).reverse.length) ++
      (xs.reverse.takeWhile test).reverse = xs := by
  have whole : (xs.reverse.dropWhile test).reverse ++ (xs.reverse.takeWhile test).reverse = xs := by
    rw [← List.reverse_append, List.takeWhile_append_dropWhile, List.reverse_reverse]
  generalize (xs.reverse.takeWhile test).reverse = run at whole ⊢
  generalize (xs.reverse.dropWhile test).reverse = before at whole
  subst whole
  simp

end Stowage.Text
