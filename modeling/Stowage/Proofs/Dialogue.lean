import Stowage.Dialogue

/-! The history of a dialogue: the questions that are asked in a state, each with its answer. -/
namespace Stowage.Dialogue

variable {Q : Type} {A : Q → Type} {α β σ : Type}

def history (answer : (q : Q) → σ → A q × σ) : Dialogue Q A α → σ → List (Σ q, A q)
  | done _, _ => []
  | ask q next, s => ⟨q, (answer q s).1⟩ :: history answer (next (answer q s).1) (answer q s).2

@[simp] theorem pure_eq (a : α) : (pure a : Dialogue Q A α) = done a := rfl

@[simp] theorem bind_eq (d : Dialogue Q A α) (f : α → Dialogue Q A β) : (d >>= f) = bind d f := rfl

@[simp] theorem history_done (answer : (q : Q) → σ → A q × σ) (a : α) (s : σ) :
    history answer (done a) s = [] := rfl

@[simp] theorem history_ask (answer : (q : Q) → σ → A q × σ) (q : Q)
    (next : A q → Dialogue Q A α) (s : σ) :
    history answer (ask q next) s =
      ⟨q, (answer q s).1⟩ :: history answer (next (answer q s).1) (answer q s).2 := rfl

theorem history_bind (answer : (q : Q) → σ → A q × σ) (d : Dialogue Q A α)
    (f : α → Dialogue Q A β) (s : σ) :
    history answer (bind d f) s =
      history answer d s ++ history answer (f (run answer d s).1) (run answer d s).2 := by
  induction d generalizing s with
  | done a => rfl
  | ask q next ih => simp [ih]

/-- Every question that is asked in a run is such, in the state that it is asked in. -/
def Along (answer : (q : Q) → σ → A q × σ) (such : Q → σ → Prop) : Dialogue Q A α → σ → Prop
  | done _, _ => True
  | ask q next, s => such q s ∧ Along answer such (next (answer q s).1) (answer q s).2

theorem along_bind {answer : (q : Q) → σ → A q × σ} {such : Q → σ → Prop} {d : Dialogue Q A α}
    {f : α → Dialogue Q A β} {s : σ} : (bind d f).Along answer such s ↔
      d.Along answer such s ∧ (f (run answer d s).1).Along answer such (run answer d s).2 := by
  induction d generalizing s with
  | done a => exact ⟨fun rest => ⟨trivial, rest⟩, And.right⟩
  | ask q next ih =>
    rw [bind_ask, Along, Along, ih, and_assoc]
    rfl

/-- Whatever is answered, only such questions are asked. -/
def AsksOnly (allowed : Q → Prop) : Dialogue Q A α → Prop
  | done _ => True
  | ask q next => allowed q ∧ ∀ a, AsksOnly allowed (next a)

variable {allowed : Q → Prop}

theorem AsksOnly.mono {more : Q → Prop} {d : Dialogue Q A α} (h : d.AsksOnly allowed)
    (wider : ∀ q, allowed q → more q) : d.AsksOnly more := by
  induction d with
  | done a => trivial
  | ask q next ih => exact ⟨wider q h.1, fun a => ih a (h.2 a)⟩

theorem AsksOnly.bind {d : Dialogue Q A α} {f : α → Dialogue Q A β} (first : d.AsksOnly allowed)
    (rest : ∀ a, (f a).AsksOnly allowed) : (bind d f).AsksOnly allowed := by
  induction d with
  | done a => exact rest a
  | ask q next ih => exact ⟨first.1, fun a => ih a (first.2 a)⟩

theorem AsksOnly.history {d : Dialogue Q A α} (h : d.AsksOnly allowed)
    (answer : (q : Q) → σ → A q × σ) (s : σ) : ∀ e ∈ history answer d s, allowed e.1 := by
  induction d generalizing s with
  | done a => simp
  | ask q next ih =>
    intro e member
    rcases List.mem_cons.mp member with rfl | later
    · exact h.1
    · exact ih _ (h.2 _) _ e later

def Returns (such : α → Prop) : Dialogue Q A α → Prop
  | done a => such a
  | ask _ next => ∀ a, Returns such (next a)

theorem returns_true (d : Dialogue Q A α) : d.Returns fun _ => True := by
  induction d with
  | done a => trivial
  | ask q next ih => exact ih

theorem Returns.bind {such : β → Prop} (d : Dialogue Q A α) {f : α → Dialogue Q A β}
    (rest : ∀ a, (f a).Returns such) : (bind d f).Returns such := by
  induction d with
  | done a => exact rest a
  | ask q next ih => exact fun a => ih a

/-- Whatever is answered, each question is one that may be asked after the history so far, and the history at
the end fits the value. -/
def Upholds (may : List (Σ q, A q) → Q → Prop) (fits : List (Σ q, A q) → α → Prop) :
    Dialogue Q A α → List (Σ q, A q) → Prop
  | done a, h => fits h a
  | ask q next, h => may h q ∧ ∀ a, Upholds may fits (next a) (h ++ [⟨q, a⟩])

variable {may : List (Σ q, A q) → Q → Prop} {h : List (Σ q, A q)}

theorem Upholds.bind {fits : List (Σ q, A q) → α → Prop} {fits' : List (Σ q, A q) → β → Prop}
    {d : Dialogue Q A α} {f : α → Dialogue Q A β} (first : d.Upholds may fits h)
    (rest : ∀ h a, fits h a → (f a).Upholds may fits' h) : (bind d f).Upholds may fits' h := by
  induction d generalizing h with
  | done a => exact rest h a first
  | ask q next ih => exact ⟨first.1, fun a => ih a (first.2 a)⟩

/-- What fits the history at the end fits that of every run. -/
theorem Upholds.history {fits : List (Σ q, A q) → α → Prop} {d : Dialogue Q A α}
    (upholds : d.Upholds may fits h) (answer : (q : Q) → σ → A q × σ) (s : σ) :
    fits (h ++ history answer d s) (run answer d s).1 := by
  induction d generalizing h s with
  | done a =>
    rw [history_done, List.append_nil]
    exact upholds
  | ask q next ih =>
    have later := ih (answer q s).1 (upholds.2 (answer q s).1) (answer q s).2
    rw [List.append_assoc] at later
    exact later

/-- What was asked before stays ahead of what is asked from now on. -/
theorem Upholds.after {fits : List (Σ q, A q) → α → Prop} {d : Dialogue Q A α}
    {asked : List (Σ q, A q)} (upholds : d.Upholds (fun _ _ => True) fits asked)
    (h : List (Σ q, A q)) :
    d.Upholds (fun _ _ => True) (fun h' a => ∃ asked, h' = h ++ asked ∧ fits asked a) (h ++ asked) := by
  induction d generalizing asked with
  | done a => exact ⟨asked, rfl, upholds⟩
  | ask q next ih =>
    refine ⟨trivial, fun a => ?_⟩
    rw [List.append_assoc]
    exact ih a (upholds.2 a)

/-- Questions that may be asked from now on are only added to the history. -/
theorem AsksOnly.upholds {d : Dialogue Q A α} {such : α → Prop} (asks : d.AsksOnly allowed)
    (returns : d.Returns such) (always : ∀ asked q, allowed q → may (h ++ asked) q) :
    d.Upholds may (fun h' a => (∃ asked, h' = h ++ asked ∧ ∀ e ∈ asked, allowed e.1) ∧ such a) h := by
  suffices general : ∀ asked, (∀ e ∈ asked, allowed e.1) →
      d.Upholds may (fun h' a => (∃ asked, h' = h ++ asked ∧ ∀ e ∈ asked, allowed e.1) ∧ such a)
        (h ++ asked) by
    simpa using general [] (by simp)
  induction d with
  | done a => exact fun asked members => ⟨⟨asked, rfl, members⟩, returns⟩
  | ask q next ih =>
    refine fun asked members => ⟨always _ q asks.1, fun a => ?_⟩
    rw [List.append_assoc]
    refine ih a (asks.2 a) (returns a) _ fun e member => ?_
    rcases List.mem_append.mp member with member | member
    · exact members e member
    · rw [List.mem_singleton.mp member]
      exact asks.1

section Interpreted

variable {R : Type} {B : R → Type} (answer : (r : R) → σ → B r × σ) (f : (q : Q) → Dialogue R B (A q))

abbrev through : (q : Q) → σ → A q × σ := fun q s => (f q).run answer s

/-- What is asked in place of the questions of a history, in states of their own. -/
def Stands (asked : List (Σ q, A q)) (h : List (Σ r, B r)) : Prop :=
  ∀ e ∈ h, ∃ q ∈ asked, ∃ s, e ∈ (f q.1).history answer s

variable {answer f}

theorem Stands.cons {asked : List (Σ q, A q)} {h : List (Σ r, B r)} (stands : Stands answer f asked h)
    (q : Σ q, A q) (s : σ) : Stands answer f (q :: asked) ((f q.1).history answer s ++ h) := by
  intro e member
  rcases List.mem_append.mp member with first | later
  · exact ⟨q, List.mem_cons_self, s, first⟩
  · obtain ⟨q', asked, found⟩ := stands e later
    exact ⟨q', List.mem_cons_of_mem q asked, found⟩

theorem stands_interpret (d : Dialogue Q A α) (s : σ) :
    Stands answer f (d.history (through answer f) s) ((d.interpret f).history answer s) := by
  induction d generalizing s with
  | done a => simp [Stands]
  | ask q next ih =>
    rw [interpret_ask, history_bind, history_ask]
    exact (ih _ _).cons ⟨q, _⟩ s

/-- Where a question is asked, its dialogue stands between those of the questions before and after it. -/
theorem history_interpret {d : Dialogue Q A α} {s : σ} {before after : List (Σ q, A q)} {q : Q} {a : A q}
    (asked : d.history (through answer f) s = before ++ ⟨q, a⟩ :: after) :
    ∃ early late s', (d.interpret f).history answer s = early ++ ((f q).history answer s' ++ late) ∧
      ((f q).run answer s').1 = a ∧ Stands answer f before early ∧ Stands answer f after late := by
  induction d generalizing s before with
  | done a => simp at asked
  | ask p next ih =>
    rw [history_ask] at asked
    rw [interpret_ask, history_bind]
    cases before with
    | nil =>
      obtain ⟨same, rfl⟩ := List.cons.inj asked
      cases same
      exact ⟨[], _, s, rfl, rfl, by simp [Stands], stands_interpret _ _⟩
    | cons e before =>
      obtain ⟨rfl, tail⟩ := List.cons.inj asked
      obtain ⟨early, late, s', whole, answered, stands, rest⟩ := ih _ tail
      refine ⟨(f p).history answer s ++ early, late, s', ?_, answered, stands.cons ⟨p, _⟩ s, rest⟩
      rw [whole, List.append_assoc]

/-- What is asked in place of a question is asked. -/
theorem mem_history_interpret {d : Dialogue Q A α} {s : σ} {q : Q} {a : A q}
    (asked : ⟨q, a⟩ ∈ d.history (through answer f) s) :
    ∃ s', ((f q).run answer s').1 = a ∧ ∀ e ∈ (f q).history answer s', e ∈ (d.interpret f).history answer s := by
  obtain ⟨before, after, split⟩ := List.append_of_mem asked
  obtain ⟨early, late, s', whole, answered, -, -⟩ := history_interpret split
  refine ⟨s', answered, fun e member => ?_⟩
  rw [whole]
  exact List.mem_append_right _ (List.mem_append_left _ member)

end Interpreted

end Stowage.Dialogue
