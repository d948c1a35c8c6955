/-! Computations that ask questions of their surroundings. What a computation does is a value of this
type; what its questions mean is said by whoever answers them, so that one computation runs against
a store in memory, a cluster, or a schedule that interleaves it with others. -/
namespace Stowage

inductive Dialogue (Q : Type) (A : Q → Type) (α : Type) : Type where
  | done (value : α)
  | ask (question : Q) (next : A question → Dialogue Q A α)

namespace Dialogue

variable {Q : Type} {A : Q → Type} {α β : Type}

def question (q : Q) : Dialogue Q A (A q) := .ask q .done

def bind : Dialogue Q A α → (α → Dialogue Q A β) → Dialogue Q A β
  | done a, f => f a
  | ask q next, f => .ask q fun answer => bind (next answer) f

instance : Monad (Dialogue Q A) where
  pure := done
  bind := bind

@[simp] theorem bind_done (a : α) (f : α → Dialogue Q A β) : bind (done a) f = f a := rfl

@[simp] theorem bind_ask (q : Q) (next : A q → Dialogue Q A α) (f : α → Dialogue Q A β) :
    bind (ask q next) f = ask q fun answer => bind (next answer) f := rfl

theorem bind_pure (d : Dialogue Q A α) : bind d done = d := by
  induction d with
  | done a => rfl
  | ask q next ih => simp [ih]

theorem bind_assoc {γ : Type} (d : Dialogue Q A α) (f : α → Dialogue Q A β)
    (g : β → Dialogue Q A γ) : bind (bind d f) g = bind d fun a => bind (f a) g := by
  induction d with
  | done a => rfl
  | ask q next ih => simp [ih]

/-- Answers the questions one by one, in the state that the answers before have left. -/
def run {σ : Type} (answer : (q : Q) → σ → A q × σ) : Dialogue Q A α → σ → α × σ
  | done a, s => (a, s)
  | ask q next, s =>
    let (a, s) := answer q s
    run answer (next a) s

@[simp] theorem run_done {σ : Type} (answer : (q : Q) → σ → A q × σ) (a : α) (s : σ) :
    run answer (done a) s = (a, s) := rfl

@[simp] theorem run_ask {σ : Type} (answer : (q : Q) → σ → A q × σ) (q : Q)
    (next : A q → Dialogue Q A α) (s : σ) :
    run answer (ask q next) s = run answer (next (answer q s).1) (answer q s).2 := rfl

theorem run_bind {σ : Type} (answer : (q : Q) → σ → A q × σ) (d : Dialogue Q A α)
    (f : α → Dialogue Q A β) (s : σ) :
    run answer (bind d f) s = run answer (f (run answer d s).1) (run answer d s).2 := by
  induction d generalizing s with
  | done a => rfl
  | ask q next ih => simp [ih]

def answerWith {m : Type → Type} [Monad m] (answer : (q : Q) → m (A q)) : Dialogue Q A α → m α
  | done a => pure a
  | ask q next => do answerWith answer (next (← answer q))

variable {R : Type} {B : R → Type}

/-- Puts a dialogue in place of each question. -/
def interpret (f : (q : Q) → Dialogue R B (A q)) : Dialogue Q A α → Dialogue R B α
  | done a => done a
  | ask q next => bind (f q) fun answer => interpret f (next answer)

@[simp] theorem interpret_done (f : (q : Q) → Dialogue R B (A q)) (a : α) :
    interpret f (done a) = done a := rfl

@[simp] theorem interpret_ask (f : (q : Q) → Dialogue R B (A q)) (q : Q)
    (next : A q → Dialogue Q A α) :
    interpret f (ask q next) = bind (f q) fun answer => interpret f (next answer) := rfl

theorem interpret_bind (f : (q : Q) → Dialogue R B (A q)) (d : Dialogue Q A α)
    (g : α → Dialogue Q A β) :
    interpret f (bind d g) = bind (interpret f d) fun a => interpret f (g a) := by
  induction d with
  | done a => rfl
  | ask q next ih => simp [ih, bind_assoc]

/-- Answers to the new questions answer the old ones too. -/
theorem run_interpret {σ : Type} (answer : (r : R) → σ → B r × σ)
    (f : (q : Q) → Dialogue R B (A q)) (d : Dialogue Q A α) (s : σ) :
    run answer (interpret f d) s = run (fun q s => run answer (f q) s) d s := by
  induction d generalizing s with
  | done a => rfl
  | ask q next ih => simp [run_bind, ih]

end Dialogue
end Stowage
