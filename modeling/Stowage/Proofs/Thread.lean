import Mathlib.Data.Fintype.Defs
import Stowage.Proofs.Setting
import Stowage.Proofs.Slot

/-! Computations under way over one store, advanced demand by demand in any order. A thread does not notice
what the others do to slots that it leaves alone, so that of such threads each goes on as if it were by
itself. -/
namespace Stowage

namespace Demand

def after (q : Demand) (s : MemoryStore) : MemoryStore :=
  match q with
  | call c => (s.answer c).2
  | transfer .. | record _ => s

/-- Demands of which neither sees what the other does to the store. -/
def Apart : Demand → Demand → Prop
  | call c, call c' => c.Apart c'
  | _, _ => True

end Demand

theorem Setting.answer_store (q : Demand) (w : Setting) : (answer q w).2.store = q.after w.store := by
  cases q <;> rfl

/-- A demand is met in the same way before and after one that is apart from it. -/
theorem Setting.answer_ahead {q q' : Demand} (apart : q.Apart q') {s s' : MemoryStore}
    (ahead : s'.Alike (q'.after s)) (outcomes : Nat → Except TransferFault TransferReport) :
    (answer q ⟨s', outcomes⟩).1 = (answer q ⟨s, outcomes⟩).1 ∧
      (answer q ⟨s', outcomes⟩).2.outcomes = (answer q ⟨s, outcomes⟩).2.outcomes ∧
      (answer q ⟨s', outcomes⟩).2.store.Alike (q'.after (answer q ⟨s, outcomes⟩).2.store) := by
  cases q with
  | transfer | record => exact ⟨rfl, rfl, ahead⟩
  | call c =>
    obtain ⟨same, left⟩ := MemoryStore.answer_alike ahead c
    cases q' with
    | transfer | record => exact ⟨same, rfl, left⟩
    | call c' =>
      obtain ⟨met, swapped⟩ := MemoryStore.answer_apart apart s
      exact ⟨same.trans met, rfl, left.trans swapped⟩

/-- What a computation asks and comes to does not change through a demand that is apart from all of it. -/
theorem Setting.history_ahead {α : Type} (d : Demands α) {q : Demand} {s s' : MemoryStore}
    (ahead : s'.Alike (q.after s)) (outcomes : Nat → Except TransferFault TransferReport)
    (apart : ∀ e ∈ d.history answer ⟨s, outcomes⟩, e.1.Apart q) :
    d.history answer ⟨s', outcomes⟩ = d.history answer ⟨s, outcomes⟩ := by
  -- The two stores note their calls in another order, so they stay alike and not equal.
  induction d generalizing s s' outcomes with
  | done a => rfl
  | ask p next ih =>
    obtain ⟨same, shifted, left⟩ := answer_ahead (apart _ (.head _)) ahead outcomes
    have later := fun e member => apart e (List.mem_cons_of_mem _ member)
    rw [Dialogue.history_ask, Dialogue.history_ask, same]
    have step : (answer p ⟨s', outcomes⟩).2 =
        ⟨(answer p ⟨s', outcomes⟩).2.store, (answer p ⟨s, outcomes⟩).2.outcomes⟩ := by rw [← shifted]
    rw [step, ih _ left _ later]

/-- A computation under way: what it still asks, the outcomes of its transfers to come, and what it asked.
-/
structure Thread (α : Type) where
  rest : Demands α
  outcomes : Nat → Except TransferFault TransferReport
  history : List Event := []

namespace Thread

variable {α : Type} (th th' : Thread α) {s s' : MemoryStore}

def result? : Option α :=
  match th.rest with
  | .done a => some a
  | .ask .. => none

def advance (s : MemoryStore) : Thread α × MemoryStore :=
  match th.rest with
  | .done _ => (th, s)
  | .ask q next =>
    let (a, w) := Setting.answer q ⟨s, th.outcomes⟩
    (⟨next a, w.outcomes, th.history ++ [⟨q, a⟩]⟩, w.store)

/-- What the thread asks from now on if it is by itself. -/
def remaining (s : MemoryStore) : List Event := th.rest.history Setting.answer ⟨s, th.outcomes⟩

def outcome (s : MemoryStore) : α × Setting := th.rest.run Setting.answer ⟨s, th.outcomes⟩

/-- A thread that advances by itself is on its way to the same end. -/
@[simp] theorem outcome_advance : (th.advance s).1.outcome (th.advance s).2 = th.outcome s := by
  obtain ⟨_ | ⟨q, next⟩, outcomes, history⟩ := th <;> rfl

theorem remaining_advance :
    (th.advance s).1.remaining (th.advance s).2 = (th.remaining s).drop 1 := by
  obtain ⟨_ | ⟨q, next⟩, outcomes, history⟩ := th <;> rfl

theorem history_advance : (th.advance s).1.history = th.history ++ (th.remaining s).take 1 := by
  obtain ⟨_ | ⟨q, next⟩, outcomes, history⟩ := th
  · exact (List.append_nil _).symm
  · rfl

@[simp] theorem failures_advance : (th.advance s).2.failures = s.failures := by
  obtain ⟨_ | ⟨q, next⟩, outcomes, history⟩ := th
  · rfl
  · cases q with
    | call c => exact s.answer_failures c
    | transfer | record => rfl

@[simp] theorem failures_outcome : (th.outcome s).2.store.failures = s.failures := by
  obtain ⟨rest, outcomes, history⟩ := th
  induction rest generalizing s outcomes history with
  | done a => rfl
  | ask q next ih =>
    have step := failures_advance ⟨.ask q next, outcomes, history⟩ (s := s)
    rw [← outcome_advance, ← step]
    exact ih ..

variable {th} in
theorem outcome_of_result {a : α} (finished : th.result? = some a) (s : MemoryStore) :
    th.outcome s = (a, ⟨s, th.outcomes⟩) := by
  obtain ⟨_ | ⟨q, next⟩, outcomes, history⟩ := th <;> cases finished
  rfl

/-- A thread is over once nothing remains. -/
theorem isSome_result_iff (s : MemoryStore) : th.result?.isSome ↔ th.remaining s = [] := by
  obtain ⟨_ | ⟨q, next⟩, outcomes, history⟩ := th
  · exact iff_of_true rfl rfl
  · exact iff_of_false Bool.false_ne_true (List.cons_ne_nil _ _)

theorem advance_alike (alike : s.Alike s') :
    (th.advance s).1 = (th.advance s').1 ∧ (th.advance s).2.Alike (th.advance s').2 := by
  obtain ⟨_ | ⟨q, next⟩, outcomes, history⟩ := th
  · exact ⟨rfl, alike⟩
  · have apart : q.Apart (.record .passes) := by cases q <;> trivial
    obtain ⟨same, shifted, left⟩ := Setting.answer_ahead apart alike outcomes
    refine ⟨?_, left⟩
    simp only [advance, same, shifted]

variable {th th'}

/-- Threads whose demands are apart can advance in either order. -/
theorem advance_apart (apart : ∀ e ∈ th.remaining s, ∀ e' ∈ th'.remaining s, e.1.Apart e'.1) :
    (th.advance (th'.advance s).2).1 = (th.advance s).1 ∧
      (th.advance (th'.advance s).2).2.Alike (th'.advance (th.advance s).2).2 := by
  obtain ⟨_ | ⟨q, next⟩, outcomes, history⟩ := th
  · exact ⟨rfl, .refl _⟩
  obtain ⟨_ | ⟨q', next'⟩, outcomes', history'⟩ := th'
  · exact ⟨rfl, .refl _⟩
  have ahead : (Setting.answer q' ⟨s, outcomes'⟩).2.store.Alike (q'.after s) := by
    rw [Setting.answer_store]
    exact .refl _
  obtain ⟨same, shifted, left⟩ :=
    Setting.answer_ahead (apart _ (.head _) _ (.head _)) ahead outcomes
  constructor
  · simp only [advance, same, shifted]
  · rw [← Setting.answer_store q' ⟨_, outcomes'⟩] at left
    exact left

/-- A thread asks the same whether one that is apart from it advances first or not. -/
theorem remaining_apart (apart : ∀ e ∈ th.remaining s, ∀ e' ∈ th'.remaining s, e.1.Apart e'.1) :
    th.remaining (th'.advance s).2 = th.remaining s := by
  obtain ⟨_ | ⟨q', next'⟩, outcomes', history'⟩ := th'
  · rfl
  · refine Setting.history_ahead th.rest (q := q') ?_ _ fun e member => apart e member _ (.head _)
    simp only [advance, Setting.answer_store]
    exact .refl _

end Thread

structure Scene (n : Nat) (α : Type) where
  store : MemoryStore
  threads : Fin n → Thread α

namespace Scene

variable {n : Nat} {α : Type}

def advance (sc : Scene n α) (i : Fin n) : Scene n α where
  store := ((sc.threads i).advance sc.store).2
  threads := Function.update sc.threads i ((sc.threads i).advance sc.store).1

def play (schedule : List (Fin n)) (sc : Scene n α) : Scene n α := schedule.foldl advance sc

@[simp] theorem play_nil (sc : Scene n α) : sc.play [] = sc := rfl

@[simp] theorem play_cons (i : Fin n) (schedule : List (Fin n)) (sc : Scene n α) :
    sc.play (i :: schedule) = (sc.advance i).play schedule := rfl

theorem play_append (first later : List (Fin n)) (sc : Scene n α) :
    sc.play (first ++ later) = (sc.play first).play later := List.foldl_append

/-- What each thread asks by itself is apart from what the others ask. -/
def Apart (sc : Scene n α) : Prop :=
  ∀ i j, i ≠ j → ∀ e ∈ (sc.threads i).remaining sc.store, ∀ e' ∈ (sc.threads j).remaining sc.store,
    e.1.Apart e'.1

/-- The same threads over stores that they cannot tell apart. -/
structure Alike (sc sc' : Scene n α) : Prop where
  threads : sc.threads = sc'.threads
  store : sc.store.Alike sc'.store

theorem Alike.trans {sc sc' sc'' : Scene n α} (h : sc.Alike sc') (h' : sc'.Alike sc'') :
    sc.Alike sc'' := ⟨h.threads.trans h'.threads, h.store.trans h'.store⟩

variable {sc sc' : Scene n α}

theorem store_advance (sc : Scene n α) (i : Fin n) :
    (sc.advance i).store = ((sc.threads i).advance sc.store).2 := rfl

theorem threads_advance (sc : Scene n α) (i : Fin n) :
    (sc.advance i).threads = Function.update sc.threads i ((sc.threads i).advance sc.store).1 := rfl

@[simp] theorem threads_advance_same (i : Fin n) :
    (sc.advance i).threads i = ((sc.threads i).advance sc.store).1 := Function.update_self ..

theorem threads_advance_other {i j : Fin n} (other : j ≠ i) :
    (sc.advance i).threads j = sc.threads j := Function.update_of_ne other ..

theorem threads_play_other {j : Fin n} {schedule : List (Fin n)} (absent : j ∉ schedule) :
    (sc.play schedule).threads j = sc.threads j := by
  induction schedule generalizing sc with
  | nil => rfl
  | cons i schedule ih =>
    rw [play_cons, ih (fun member => absent (.tail _ member)),
      threads_advance_other fun same => absent (by rw [same]; exact .head _)]

/-- No thread asks for more because one of them advances. -/
theorem remaining_advance (apart : sc.Apart) (i j : Fin n) :
    ∀ e ∈ ((sc.advance i).threads j).remaining (sc.advance i).store,
      e ∈ (sc.threads j).remaining sc.store := by
  intro e member
  by_cases same : j = i
  · subst same
    rw [threads_advance_same, advance, Thread.remaining_advance] at member
    exact List.mem_of_mem_drop member
  · rw [threads_advance_other same, advance, Thread.remaining_apart (apart j i same)] at member
    exact member

theorem Apart.advance (apart : sc.Apart) (i : Fin n) : (sc.advance i).Apart :=
  fun j k different e member e' member' =>
    apart j k different e (Scene.remaining_advance apart i j e member) e'
      (Scene.remaining_advance apart i k e' member')

/-- The order in which two of the threads advance does not matter. -/
theorem Apart.swap (apart : sc.Apart) (i j : Fin n) :
    ((sc.advance i).advance j).Alike ((sc.advance j).advance i) := by
  by_cases same : i = j
  · subst same
    exact ⟨rfl, .refl _⟩
  obtain ⟨first, left⟩ := Thread.advance_apart (apart i j same)
  obtain ⟨second, -⟩ := Thread.advance_apart (apart j i (Ne.symm same))
  have before : (sc.advance i).threads j = sc.threads j := threads_advance_other (Ne.symm same)
  have before' : (sc.advance j).threads i = sc.threads i := threads_advance_other same
  constructor
  · rw [threads_advance (sc.advance i), threads_advance (sc.advance j), before, before',
      store_advance sc i, store_advance sc j, first, second, threads_advance sc, threads_advance sc]
    exact Function.update_comm same _ _ _
  · rw [store_advance (sc.advance i), store_advance (sc.advance j), before, before', store_advance sc,
      store_advance sc]
    exact left.symm

theorem Alike.advance (alike : sc.Alike sc') (i : Fin n) : (sc.advance i).Alike (sc'.advance i) := by
  obtain ⟨same, left⟩ := (sc.threads i).advance_alike alike.store
  rw [Scene.advance, Scene.advance, ← alike.threads]
  exact ⟨by rw [same], left⟩

theorem Alike.play (alike : sc.Alike sc') (schedule : List (Fin n)) :
    (sc.play schedule).Alike (sc'.play schedule) := by
  induction schedule generalizing sc sc' with
  | nil => exact alike
  | cons i schedule ih => exact ih (alike.advance i)

/-- Schedules with the same turns for each thread lead to the same. -/
theorem Apart.play_perm (apart : sc.Apart) {schedule schedule' : List (Fin n)}
    (perm : schedule.Perm schedule') : (sc.play schedule).Alike (sc.play schedule') := by
  induction perm generalizing sc with
  | nil => exact ⟨rfl, .refl _⟩
  | cons i _ ih => exact ih (apart.advance i)
  | swap i j schedule => exact (apart.swap j i).play schedule
  | trans _ _ ih ih' => exact (ih apart).trans (ih' apart)

/-- The turns of the others make no difference to a thread. -/
theorem Apart.threads_play (apart : sc.Apart) (schedule : List (Fin n)) (j : Fin n) :
    (sc.play schedule).threads j = (sc.play (List.replicate (schedule.count j) j)).threads j := by
  have parted := (List.filter_append_perm (· == j) schedule).symm
  rw [(apart.play_perm parted).threads, play_append, threads_play_other (by simp), List.filter_beq]

/-- A thread by itself is on its way to its end, one demand for each turn. -/
theorem play_replicate (k : Nat) (sc : Scene n α) (j : Fin n) :
    ((sc.play (List.replicate k j)).threads j).outcome (sc.play (List.replicate k j)).store =
        (sc.threads j).outcome sc.store ∧
      ((sc.play (List.replicate k j)).threads j).remaining (sc.play (List.replicate k j)).store =
        ((sc.threads j).remaining sc.store).drop k ∧
      ((sc.play (List.replicate k j)).threads j).history =
        (sc.threads j).history ++ ((sc.threads j).remaining sc.store).take k := by
  induction k generalizing sc with
  | zero => simp
  | succ k ih =>
    obtain ⟨ends, remains, asked⟩ := ih (sc.advance j)
    rw [List.replicate_succ, play_cons, ends, remains, asked, threads_advance_same, advance,
      Thread.outcome_advance, Thread.remaining_advance, Thread.history_advance, List.drop_drop,
      List.append_assoc, Nat.add_comm k 1, List.take_add]
    exact ⟨rfl, rfl, rfl⟩

theorem Apart.play (apart : sc.Apart) (schedule : List (Fin n)) : (sc.play schedule).Apart := by
  induction schedule generalizing sc with
  | nil => exact apart
  | cons i schedule ih => exact ih (apart.advance i)

/-- When all threads are over, the store is as if they had come to their ends one after another, in any
order. -/
theorem Apart.store_play (apart : sc.Apart) (order schedule : List (Fin n)) (distinct : order.Nodup)
    (within : ∀ i ∈ schedule, i ∈ order)
    (finished : ∀ i ∈ order, ((sc.play schedule).threads i).result?.isSome) :
    (sc.play schedule).store.Alike
      (order.foldl (fun s i => ((sc.threads i).outcome s).2.store) sc.store) := by
  induction order generalizing sc schedule with
  | nil =>
    obtain rfl : schedule = [] := List.eq_nil_iff_forall_not_mem.mpr fun i member => nomatch within i member
    exact .refl _
  | cons i order ih =>
    obtain ⟨absent, distinct⟩ := List.nodup_cons.mp distinct
    -- The first thread of the order has all its turns first.
    have parted := (List.filter_append_perm (· == i) schedule).symm
    rw [List.filter_beq] at parted
    have alike := apart.play_perm parted
    rw [play_append] at alike
    generalize others : schedule.filter (fun j => !(j == i)) = later at alike
    have apart' : (sc.play (List.replicate (schedule.count i) i)).Apart := apart.play _
    obtain ⟨ends, -⟩ := play_replicate (schedule.count i) sc i
    obtain ⟨a, came⟩ := Option.isSome_iff_exists.mp (finished i (.head _))
    rw [apart.threads_play] at came
    have unmoved : ∀ j ∈ order, (sc.play (List.replicate (schedule.count i) i)).threads j =
        sc.threads j := fun j member =>
      threads_play_other fun turn => absent (List.eq_of_mem_replicate turn ▸ member)
    generalize sc.play (List.replicate (schedule.count i) i) = sc' at alike apart' ends came unmoved
    refine alike.store.trans ?_
    have rest := ih apart' later distinct ?_ ?_
    · rw [Thread.outcome_of_result came] at ends
      rw [List.foldl_cons, ← ends]
      convert rest using 1
      exact List.foldl_ext _ _ _ fun s j member => by rw [unmoved j member]
    · intro j member
      subst others
      obtain ⟨member, different⟩ := List.mem_filter.mp member
      exact (List.mem_cons.mp (within j member)).resolve_left (by simpa using different)
    · intro j member
      rw [← alike.threads]
      exact finished j (.tail _ member)

end Scene
end Stowage
