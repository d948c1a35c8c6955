import Stowage.Proofs.Pass.Generation

/-! A resource that is edited while passes run over it. The edits land between any two demands of a pass,
and the failures that are set can change at any time; one pass is in flight at most. -/
namespace Stowage

namespace MemoryStore

variable (key : ObjectKey) (s : MemoryStore)

/-- The store after an edit: a resource gets another spec in a later generation and keeps its status. An
edit in no later generation is none. -/
def edit (spec : ResourceSpec) (generation : Int64) : MemoryStore :=
  match Table.get? key s.resources with
  | none => s
  | some r =>
    if r.metadata.generation.all (· < generation) then
      let edited := { r with spec, metadata := { r.metadata with generation := some generation } }
      { s with resources := Table.put key edited s.resources }
    else s

end MemoryStore

/-- A store and the last pass over it, which may be under way. -/
structure World where
  store : MemoryStore
  flight : Option (Thread (Except Failure Requeue)) := none

inductive Happening where
  | edit (spec : ResourceSpec) (generation : Int64)
  /-- Other calls fail from now on. -/
  | disturb (failures : List (Operation × String))
  /-- A pass begins, unless one is under way. -/
  | start (outcomes : Nat → Except TransferFault TransferReport)
  /-- The next demand of the pass is met. -/
  | step

namespace World

variable (registry : String) (fallback : Span) (key : ObjectKey)

def happen (w : World) : Happening → World
  | .edit spec generation => { w with store := w.store.edit key spec generation }
  | .disturb failures => { w with store := { w.store with failures } }
  | .start outcomes =>
    if w.flight.all (·.result?.isSome) then
      { w with flight := some { rest := Pass.run registry fallback key, outcomes } }
    else w
  | .step =>
    match w.flight with
    | none => w
    | some th => ⟨(th.advance w.store).2, some (th.advance w.store).1⟩

def play (course : List Happening) (w : World) : World := course.foldl (happen registry fallback key) w

end World

section Tables

variable {key : ObjectKey} {table table' table'' : List (ObjectKey × Resource)}

/-- The resource has a generation and observes none beyond it. -/
def Sound (key : ObjectKey) (table : List (ObjectKey × Resource)) : Prop :=
  ∃ r g, Table.get? key table = some r ∧ r.metadata.generation = some g ∧
    ∀ o, r.observed? = some o → o ≤ g

def Onward (key : ObjectKey) (table table' : List (ObjectKey × Resource)) : Prop :=
  ∀ r, Table.get? key table = some r → ∃ r', Table.get? key table' = some r' ∧
    ∀ o, r.observed? = some o → ∃ o', r'.observed? = some o' ∧ o ≤ o'

theorem Onward.refl (key : ObjectKey) (table : List (ObjectKey × Resource)) : Onward key table table :=
  fun r found => ⟨r, found, fun o observes => ⟨o, observes, Int64.le_refl o⟩⟩

theorem Onward.trans (h : Onward key table table') (h' : Onward key table' table'') :
    Onward key table table'' := by
  intro r found
  obtain ⟨r', found', observes⟩ := h r found
  obtain ⟨r'', found'', observes'⟩ := h' r' found'
  refine ⟨r'', found'', fun o observed => ?_⟩
  obtain ⟨o', observed', le⟩ := observes o observed
  obtain ⟨o'', observed'', le'⟩ := observes' o' observed'
  exact ⟨o'', observed'', Int64.le_trans le le'⟩

/-- How the resource stands to the one that a pass loaded: in no earlier generation, and with the status
that was loaded until the pass tells the generation that it loaded. -/
def Tracks (key : ObjectKey) (table : List (ObjectKey × Resource)) (h : List Event) : Prop :=
  ∀ r₀ ∈ loaded h, ∃ r g₀ g, Table.get? key table = some r ∧ r.metadata.generation = some g ∧
    r₀.metadata.generation = some g₀ ∧ g₀ ≤ g ∧ (∀ o, r₀.observed? = some o → o ≤ g₀) ∧
    (told h = false → r.status.getD {} = r₀.status.getD {}) ∧
    (told h = true → r.observed? = some g₀)

theorem Tracks.nil (key : ObjectKey) (table : List (ObjectKey × Resource)) : Tracks key table [] :=
  fun _ member => absurd member List.not_mem_nil

theorem Tracks.quiet {h : List Event} {e : Event} (tracks : Tracks key table h) (quiet : e.1.Quiet) :
    Tracks key table (h ++ [e]) := by
  have quiet : ∀ e' ∈ [e], e'.1.Quiet := by simpa using quiet
  intro r₀ member
  rw [told_append_quiet quiet]
  rw [loaded_append_quiet quiet] at member
  exact tracks r₀ member

end Tables

/-- Nothing but a patch of the status changes the resources. -/
theorem Demand.after_resources {q : Demand} (unpatched : q.patchesStatus = false) (s : MemoryStore) :
    (q.after s).resources = s.resources := by
  cases q with
  | transfer | record => rfl
  | call c =>
    have objects := (s.answer_reaction c).2.1
    refine (congrArg Objects.resources objects).trans ?_
    cases c with
    | getResource | getDescriptor | getSnapshot => rw [Call.reaction_of_reads rfl]; rfl
    | createSnapshot | updateSnapshot =>
      generalize (Call.reaction ..).2 = content
      cases content <;> rfl
    | patchStatus => cases unpatched

/-- What happens to the resource while a pass with such a history is under way. -/
structure Keeps (key : ObjectKey) (table table' : List (ObjectKey × Resource)) (h : List Event) :
    Prop where
  sound : Sound key table'
  onward : Onward key table table'
  tracks : Tracks key table' h

section Met

variable {key : ObjectKey} {s : MemoryStore} {h : List Event}

theorem keeps_of_quiet {e : Event} (quiet : e.1.Quiet) (sound : Sound key s.resources)
    (tracks : Tracks key s.resources h) : Keeps key s.resources s.resources (h ++ [e]) :=
  ⟨sound, .refl _ _, tracks.quiet quiet⟩

/-- What was just loaded is the resource itself. -/
theorem keeps_of_load (unloaded : loaded h = []) (untold : told h = false)
    (sound : Sound key s.resources) :
    Keeps key s.resources s.resources
      (h ++ [⟨.call (.getResource key), (s.answer (.getResource key)).1⟩]) := by
  refine ⟨sound, .refl _ _, fun r₀ member => ?_⟩
  have still : told [(⟨.call (.getResource key), (s.answer (.getResource key)).1⟩ : Event)] = false := by
    simp [told, Demand.patchesStatus]
  rw [loaded_append, unloaded, List.nil_append] at member
  rw [told_append, untold, still]
  obtain ⟨r, g, found, generation, observes⟩ := sound
  rcases s.answer_cases (.getResource key) with ⟨e, -, failed⟩ | performed
  · rw [failed] at member
    cases member
  · have same : loaded [(⟨.call (.getResource key), .ok (some r)⟩ : Event)] = [r] := rfl
    rw [performed, MemoryStore.perform, MemoryStore.noted_resources, found, same,
      List.mem_singleton] at member
    subst member
    exact ⟨r₀, g, g, found, generation, generation, Int64.le_refl g, observes, fun _ => rfl,
      fun told => absurd told Bool.false_ne_true⟩

/-- The patch of the status tells the generation that was loaded, whatever the resource has come to since. -/
theorem keeps_of_patch {r₀ : Resource} {after : ResourceStatus} {patch : Document}
    (untold : told h = false) (loads : loaded h = [r₀])
    (changed : (r₀.status.getD {}).patch? after = some patch)
    (tells : after.observedGeneration = r₀.metadata.generation.or r₀.observed?)
    (sound : Sound key s.resources) (tracks : Tracks key s.resources h) :
    Keeps key s.resources (s.answer (.patchStatus key patch)).2.resources
      (h ++ [⟨.call (.patchStatus key patch), (s.answer (.patchStatus key patch)).1⟩]) := by
  obtain ⟨r, g₀, g, found, generation, generation₀, le, observes, held, -⟩ :=
    tracks r₀ (by rw [loads]; exact .head _)
  -- Edits keep the status, so the patch meets the one that it was made from.
  have status := held untold
  rcases MemoryStore.answer_patchStatus found status changed with ⟨e, -, failed⟩ | done
  · rw [failed]
    have none : loaded [(⟨.call (.patchStatus key patch), .error e⟩ : Event)] = [] := rfl
    have still : told [(⟨.call (.patchStatus key patch), .error e⟩ : Event)] = false := rfl
    refine ⟨sound, .refl _ _, fun r₁ member => ?_⟩
    rw [loaded_append, none, List.append_nil] at member
    rw [told_append, still, Bool.or_false]
    exact tracks r₁ member
  · rw [done]
    have held' := Table.get?_put_same key { r with status := some after } s.resources
    have observed : Resource.observed? { r with status := some after } = some g₀ := by
      rw [generation₀] at tells
      exact tells
    refine ⟨⟨_, g, held', generation, fun o same => ?_⟩, fun r' found' => ?_, fun r₁ member => ?_⟩
    · rw [observed] at same
      cases same
      exact le
    · rw [found] at found'
      cases found'
      refine ⟨_, held', fun o before => ⟨g₀, observed, observes o ?_⟩⟩
      rw [Resource.observed?, ← status]
      exact before
    · have member : r₁ ∈ [r₀] := by
        rw [loaded_append, loads] at member
        exact member
      obtain rfl := List.mem_singleton.mp member
      refine ⟨_, g₀, g, held', generation, generation₀, le, observes, ?_, fun _ => observed⟩
      rw [told_append]
      exact fun untold => nomatch (Bool.or_eq_false_iff.mp untold).2

theorem keeps_of_may {q : Demand} (may : Pass.May key h q) (sound : Sound key s.resources)
    (tracks : Tracks key s.resources h) (outcomes : Nat → Except TransferFault TransferReport) :
    Keeps key s.resources (q.after s).resources
      (h ++ [⟨q, (Setting.answer q ⟨s, outcomes⟩).1⟩]) := by
  cases q with
  | transfer | record => exact keeps_of_quiet trivial sound tracks
  | call c =>
    cases c with
    | getDescriptor | getSnapshot | createSnapshot | updateSnapshot =>
      rw [Demand.after_resources rfl]
      exact keeps_of_quiet trivial sound tracks
    | getResource k =>
      obtain ⟨rfl, unloaded, untold⟩ := may
      rw [Demand.after_resources rfl]
      exact keeps_of_load unloaded untold sound
    | patchStatus k patch =>
      obtain ⟨rfl, untold, r₀, after, loads, changed, tells⟩ := may
      exact keeps_of_patch untold loads changed tells sound tracks

/-- An edit leaves the status, in a later generation. -/
theorem keeps_of_edit (spec : ResourceSpec) (generation : Int64) (sound : Sound key s.resources)
    (tracks : Tracks key s.resources h) :
    Keeps key s.resources (s.edit key spec generation).resources h := by
  obtain ⟨r, g, found, known, observes⟩ := sound
  by_cases later : g < generation
  · have edited : Table.get? key (s.edit key spec generation).resources =
        some { r with spec, metadata := { r.metadata with generation := some generation } } := by
      simp [MemoryStore.edit, found, known, later]
    have le := Int64.le_of_lt later
    refine ⟨⟨_, generation, edited, rfl, fun o same => Int64.le_trans (observes o same) le⟩,
      fun r' found' => ?_, fun r₀ member => ?_⟩
    · rw [found] at found'
      cases found'
      exact ⟨_, edited, fun o same => ⟨o, same, Int64.le_refl o⟩⟩
    · obtain ⟨r', g₀, g', found', known', known₀, le', observes₀, held, tells⟩ := tracks r₀ member
      rw [found] at found'
      cases found'
      rw [known] at known'
      cases known'
      exact ⟨_, g₀, generation, edited, rfl, known₀, Int64.le_trans le' le, observes₀, held, tells⟩
  · have same : s.edit key spec generation = s := by
      simp [MemoryStore.edit, found, known, later]
    rw [same]
    exact ⟨⟨r, g, found, known, observes⟩, .refl _ _, tracks⟩

end Met

namespace Example

def course : List Happening :=
  .start through.outcomes :: List.replicate 4 .step ++ .edit resource.spec 5 :: List.replicate 7 .step

def again : List Happening := .start through.outcomes :: List.replicate 11 .step

end Example

namespace World

variable (registry : String) (fallback : Span) {key : ObjectKey} {w : World}

structure Steady (key : ObjectKey) (w : World) : Prop where
  sound : Sound key w.store.resources
  upholds : ∀ th, w.flight = some th → th.rest.Upholds (Pass.May key) Pass.Fits th.history
  tracks : ∀ th, w.flight = some th → Tracks key w.store.resources th.history

theorem Steady.step (steady : Steady key w) :
    Steady key (w.happen registry fallback key .step) ∧
      Onward key w.store.resources (w.happen registry fallback key .step).store.resources := by
  -- Nothing is in flight, or the pass is over, or it asks.
  obtain ⟨s, _ | ⟨_ | ⟨q, next⟩, outcomes, history⟩⟩ := w
  · exact ⟨steady, .refl _ _⟩
  · exact ⟨steady, .refl _ _⟩
  · obtain ⟨may, upholds⟩ := steady.upholds _ rfl
    have keeps := keeps_of_may may steady.sound (steady.tracks _ rfl) outcomes
    rw [← Setting.answer_store q ⟨s, outcomes⟩] at keeps
    refine ⟨⟨keeps.sound, ?_, ?_⟩, keeps.onward⟩
    · rintro _ ⟨⟩
      exact upholds _
    · rintro _ ⟨⟩
      exact keeps.tracks

/-- Whatever happens, the world stays steady and the resource goes onward. -/
theorem Steady.happen (steady : Steady key w) (x : Happening) :
    Steady key (w.happen registry fallback key x) ∧
      Onward key w.store.resources (w.happen registry fallback key x).store.resources := by
  cases x with
  | step => exact steady.step registry fallback
  | disturb failures => exact ⟨⟨steady.sound, steady.upholds, steady.tracks⟩, .refl _ _⟩
  | edit spec generation =>
    have keeps {h : List Event} := keeps_of_edit (h := h) spec generation steady.sound
    have edited := keeps (.nil _ _)
    refine ⟨⟨edited.sound, steady.upholds, fun th flight => ?_⟩, edited.onward⟩
    exact (keeps (steady.tracks th flight)).tracks
  | start outcomes =>
    rw [World.happen]
    split
    · refine ⟨⟨steady.sound, fun th begun => ?_, fun th begun => ?_⟩, .refl _ _⟩ <;>
        obtain rfl := Option.some.inj begun
      · exact Pass.run_upholds registry fallback key
      · exact .nil _ _
    · exact ⟨steady, .refl _ _⟩

theorem play_append (course more : List Happening) (w : World) :
    w.play registry fallback key (course ++ more) =
      (w.play registry fallback key course).play registry fallback key more := List.foldl_append

theorem Steady.play (steady : Steady key w) (course : List Happening) :
    Steady key (w.play registry fallback key course) ∧
      Onward key w.store.resources (w.play registry fallback key course).store.resources := by
  induction course generalizing w with
  | nil => exact ⟨steady, .refl _ _⟩
  | cons x course ih =>
    obtain ⟨next, onward⟩ := steady.happen registry fallback x
    obtain ⟨last, later⟩ := ih next
    exact ⟨last, onward.trans later⟩

/-- A pass that went through with a descriptor left the generation that it loaded. -/
theorem Steady.observed (steady : Steady key w) {th : Thread (Except Failure Requeue)} {q : Requeue}
    {r₀ : Resource} (flight : w.flight = some th) (finished : th.result? = some (.ok q))
    (member : r₀ ∈ loaded th.history) (found : described th.history ≠ []) :
    ∃ r g₀, Table.get? key w.store.resources = some r ∧ r₀.metadata.generation = some g₀ ∧
      r.observed? = some g₀ := by
  have upholds := steady.upholds th flight
  obtain ⟨r, g₀, g, stored, -, generation, -, -, held, tells⟩ := steady.tracks th flight r₀ member
  refine ⟨r, g₀, stored, generation, ?_⟩
  obtain ⟨_ | ⟨_, _⟩, outcomes, history⟩ := th <;> cases finished
  rcases upholds q r₀ rfl member found with told' | same
  · exact tells told'
  · cases untold : told history with
    | true => exact tells untold
    | false =>
      rw [generation] at same
      rw [Resource.observed?, held untold]
      exact same

/-- Wherever the edits of a resource land between the demands of passes over it, and whatever fails: at
every moment it observes no generation beyond its own, later on it observes no less, and after a pass that
went through with a descriptor it observes the generation which that pass loaded. -/
theorem observes_what_was_loaded (registry : String) (fallback : Span) (key : ObjectKey)
    (s : MemoryStore) (sound : Sound key s.resources) (course more : List Happening) :
    Sound key (play registry fallback key course ⟨s, none⟩).store.resources ∧
    Onward key (play registry fallback key course ⟨s, none⟩).store.resources
      (play registry fallback key (course ++ more) ⟨s, none⟩).store.resources ∧
    ∀ th q r₀, (play registry fallback key course ⟨s, none⟩).flight = some th →
      th.result? = some (.ok q) → r₀ ∈ loaded th.history → described th.history ≠ [] →
      ∃ r g₀, Table.get? key (play registry fallback key course ⟨s, none⟩).store.resources = some r ∧
        r₀.metadata.generation = some g₀ ∧ r.observed? = some g₀ := by
  have initial : Steady key ⟨s, none⟩ := ⟨sound, fun _ => nofun, fun _ => nofun⟩
  obtain ⟨steady, -⟩ := initial.play registry fallback course
  refine ⟨steady.sound, ?_, fun th q r₀ => steady.observed⟩
  rw [play_append]
  exact (steady.play registry fallback more).2

/-- An edit lands after the pass loaded the resource: the pass tells the generation that it loaded, and the
next one does not take it back. -/
theorem observes_what_was_loaded_before_an_edit :
    Sound ⟨"shop", "web"⟩ Example.store.resources ∧
    ((play "registry.local/" .zero ⟨"shop", "web"⟩ Example.course ⟨Example.store, none⟩).flight.bind
      Thread.result?) = some (.ok (.after (.ofSeconds 600))) ∧
    ∃ r, Table.get? ⟨"shop", "web"⟩ (play "registry.local/" .zero ⟨"shop", "web"⟩ Example.course
        ⟨Example.store, none⟩).store.resources = some r ∧
      r.metadata.generation = some 5 ∧ r.observed? = some 2 ∧
      ∃ r' o', Table.get? ⟨"shop", "web"⟩ (play "registry.local/" .zero ⟨"shop", "web"⟩
          (Example.course ++ Example.again) ⟨Example.store, none⟩).store.resources = some r' ∧
        r'.observed? = some o' ∧ 2 ≤ o' := by
  have sound : Sound ⟨"shop", "web"⟩ Example.store.resources := by
    refine ⟨Example.resource, 2, rfl, rfl, fun o observes => ?_⟩
    cases observes
    decide
  have ended : ((play "registry.local/" .zero ⟨"shop", "web"⟩ Example.course
      ⟨Example.store, none⟩).flight.bind Thread.result?) = some (.ok (.after (.ofSeconds 600))) := by
    decide +kernel
  have loads : (play "registry.local/" .zero ⟨"shop", "web"⟩ Example.course
      ⟨Example.store, none⟩).flight.map (fun th => (loaded th.history).map (·.metadata.generation)) =
        some [some 2] := by decide +kernel
  have finds : (play "registry.local/" .zero ⟨"shop", "web"⟩ Example.course
      ⟨Example.store, none⟩).flight.map (fun th => (described th.history).length) = some 1 := by
    decide +kernel
  have edited : (Table.get? ⟨"shop", "web"⟩ (play "registry.local/" .zero ⟨"shop", "web"⟩
      Example.course ⟨Example.store, none⟩).store.resources).map (·.metadata.generation) =
        some (some 5) := by decide +kernel
  obtain ⟨-, onward, tells⟩ := observes_what_was_loaded "registry.local/" .zero ⟨"shop", "web"⟩
    Example.store sound Example.course Example.again
  obtain ⟨th, flight, finished⟩ := Option.bind_eq_some_iff.mp ended
  rw [flight] at loads finds
  have generations : (loaded th.history).map (·.metadata.generation) = [some 2] := Option.some.inj loads
  have one : (described th.history).length = 1 := Option.some.inj finds
  obtain ⟨r₀, rest, loads, generation, -⟩ := List.map_eq_cons_iff.mp generations
  have found : described th.history ≠ [] := fun none => by
    rw [none] at one
    cases one
  obtain ⟨r, g₀, stored, generation', observes⟩ :=
    tells th _ r₀ flight finished (by rw [loads]; exact .head _) found
  rw [generation] at generation'
  cases generation'
  rw [stored] at edited
  obtain ⟨r', stored', later⟩ := onward r stored
  obtain ⟨o', observes', le⟩ := later 2 observes
  exact ⟨sound, ended, r, stored, Option.some.inj edited, observes, r', o', stored', observes', le⟩

end World
end Stowage
