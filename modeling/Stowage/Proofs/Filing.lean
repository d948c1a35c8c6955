import Stowage.Proofs.Slot

/-! What can be done with a store, and what holds of it afterwards: each object lies under the key of its own
metadata, and the calls are counted. A call touches nothing but its slot, and nothing at all if it fails. -/
namespace Stowage

/-- Keys in order, each with a value that has it for its own key. -/
structure Table.Filed {κ : Type u} {α : Type v} [LT κ] (ownKey : α → κ) (table : List (κ × α)) : Prop where
  ordered : Table.Ordered table
  own : ∀ entry ∈ table, ownKey entry.2 = entry.1

namespace Table.Filed

variable {κ : Type u} {α : Type v} [LT κ] {ownKey : α → κ} {table : List (κ × α)}

theorem nil : Filed ownKey [] := ⟨.nil, nofun⟩

variable [DecidableEq κ]

theorem found (filed : Filed ownKey table) {key : κ} {value : α} (there : get? key table = some value) :
    ownKey value = key := filed.own _ (mem_of_get? there)

theorem put [DecidableLT κ] [Trans (α := κ) (· < ·) (· < ·) (· < ·)] [Std.Trichotomous (α := κ) (· < ·)]
    (filed : Filed ownKey table) {key : κ} {value : α} (own : ownKey value = key) :
    Filed ownKey (Table.put key value table) where
  ordered := filed.ordered.put key value
  own entry member := by
    rcases mem_put member with rfl | there
    · exact own
    · exact filed.own entry there

theorem erase (filed : Filed ownKey table) (key : κ) : Filed ownKey (Table.erase key table) where
  ordered := filed.ordered.erase key
  own entry member := filed.own entry ((erase_sublist key table).subset member)

end Table.Filed

namespace Slot

def key : Slot → ObjectKey
  | resource key | descriptor key | snapshot key => key

@[simp] theorem key_slot (c : Call) : c.slot.key = c.key := by
  cases c <;> rfl

def ownKey : (slot : Slot) → slot.Content → ObjectKey
  | resource _ => Resource.key
  | descriptor _ => fun c => c.metadata.key
  | snapshot _ => Snapshot.key

def Fits (slot : Slot) (content : Option slot.Content) : Prop :=
  ∀ x ∈ content, slot.ownKey x = slot.key

end Slot

namespace Objects

/-- Each object lies under the key that is derived from its metadata, and no key is there twice. -/
structure Filed (o : Objects) : Prop where
  resources : Table.Filed Resource.key o.resources
  descriptors : Table.Filed (fun c => c.metadata.key) o.descriptors
  snapshots : Table.Filed Snapshot.key o.snapshots

variable {o : Objects}

theorem Filed.fits (filed : o.Filed) (slot : Slot) : slot.Fits (o.find? slot) := by
  intro x there
  cases slot with
  | resource key => exact filed.resources.found there
  | descriptor key => exact filed.descriptors.found there
  | snapshot key => exact filed.snapshots.found there

theorem Filed.put (filed : o.Filed) (slot : Slot) (x : slot.Content) (own : slot.ownKey x = slot.key) :
    (o.put slot x).Filed := by
  cases slot with
  | resource key => exact { filed with resources := filed.resources.put own }
  | descriptor key => exact { filed with descriptors := filed.descriptors.put own }
  | snapshot key => exact { filed with snapshots := filed.snapshots.put own }

theorem Filed.putAny (filed : o.Filed) {slot : Slot} {content : Option slot.Content}
    (fits : slot.Fits content) : (o.putAny slot content).Filed := by
  cases content with
  | none => exact filed
  | some x => exact filed.put slot x (fits x rfl)

theorem find?_putAny_same (o : Objects) (slot : Slot) (content : Option slot.Content) :
    (o.putAny slot content).find? slot = content.or (o.find? slot) := by
  cases content with
  | none => rfl
  | some x => exact o.find?_put_same slot x

end Objects

namespace Call

/-- What a call that succeeds has made of what was in its slot: a snapshot is created where there was none, or
its spec alone is replaced, or the status of a resource alone. -/
def Wrote : (c : Call) → Option c.slot.Content → Option c.slot.Content → Prop
  | getResource _, found, found' => found' = found
  | getDescriptor _, found, found' => found' = found
  | getSnapshot _, found, found' => found' = found
  | createSnapshot p, found, found' => found = none ∧ found' = some p
  | updateSnapshot _ spec, found, found' => ∃ p : Snapshot, found = some p ∧ found' = some { p with spec }
  | patchStatus _ patch, found, found' => ∃ (r : Resource) (status : ResourceStatus), found = some r ∧
      MemoryStore.patchedStatus r patch = .ok status ∧ found' = some { r with status := some status }

/-- What a call may change of the objects. -/
structure Contained (o : Objects) (c : Call) (a : c.Answer) (o' : Objects) : Prop where
  elsewhere : ∀ slot, slot ≠ c.slot → o'.find? slot = o.find? slot
  failed : ∀ e, a = .error e → o' = o
  succeeded : ∀ x, a = .ok x → c.Wrote (o.find? c.slot) (o'.find? c.slot)

/-- A call fails and puts nothing into its slot, or has made of it what it says. -/
theorem effect_cases (c : Call) (found : Option c.slot.Content) :
    (∃ e, c.effect found = (.error e, none)) ∨
      ∃ x put, c.effect found = (.ok x, put) ∧ c.Wrote found (put.or found) := by
  cases c with
  | getResource | getDescriptor | getSnapshot => exact .inr ⟨found, none, rfl, rfl⟩
  | createSnapshot p =>
    cases found with
    | some => exact .inl ⟨_, rfl⟩
    | none => exact .inr ⟨p, some p, rfl, rfl, rfl⟩
  | updateSnapshot key spec =>
    cases found with
    | none => exact .inl ⟨_, rfl⟩
    | some p => exact .inr ⟨_, _, rfl, p, rfl, rfl⟩
  | patchStatus key patch =>
    cases found with
    | none => exact .inl ⟨_, rfl⟩
    | some r =>
      cases patched : MemoryStore.patchedStatus r patch with
      | error misfit =>
        refine .inl ⟨.backend Resource.kind key misfit.message, ?_⟩
        simp only [effect, patched]
      | ok status =>
        refine .inr ⟨(), some ({ r with status := some status } : Resource), ?_, r, status, rfl, patched, rfl⟩
        simp only [effect, patched]

theorem reaction_cases (failures : List (Operation × String)) (c : Call) (found : Option c.slot.Content) :
    (∃ e, c.reaction failures found = (.error e, none)) ∨
      ∃ x put, c.reaction failures found = (.ok x, put) ∧ c.Wrote found (put.or found) := by
  rw [reaction]
  split
  · exact .inl ⟨_, rfl⟩
  · exact c.effect_cases found

/-- What a call has made of its slot belongs there, if what was there did. -/
theorem Wrote.fits {c : Call} {found found' : Option c.slot.Content} (wrote : c.Wrote found found')
    (fits : c.slot.Fits found) : c.slot.Fits found' := by
  cases c with
  | getResource | getDescriptor | getSnapshot => exact (show found' = found from wrote) ▸ fits
  | createSnapshot p =>
    obtain ⟨-, rfl⟩ := wrote
    rintro x ⟨⟩
    rfl
  | updateSnapshot key spec =>
    obtain ⟨p, rfl, rfl⟩ := wrote
    rintro x ⟨⟩
    exact fits p rfl
  | patchStatus key patch =>
    obtain ⟨r, status, rfl, -, rfl⟩ := wrote
    rintro x ⟨⟩
    exact fits r rfl

end Call

namespace MemoryStore

/-- A call changes its slot only, as it says, and nothing if it fails. -/
theorem answer_contained (s : MemoryStore) (c : Call) :
    c.Contained s.objects (s.answer c).1 (s.answer c).2.objects := by
  obtain ⟨answer, objects, -⟩ := s.answer_reaction c
  rw [answer, objects]
  refine ⟨fun slot apart => Objects.find?_putAny_other _ apart _, fun e failed => ?_, fun x succeeded => ?_⟩
  all_goals
    rcases c.reaction_cases s.failures (s.objects.find? c.slot) with
      ⟨e', reaction⟩ | ⟨x', put, reaction, wrote⟩
  · rw [reaction]
    rfl
  · rw [reaction] at failed
    cases failed
  · rw [reaction] at succeeded
    cases succeeded
  · rw [reaction, Objects.find?_putAny_same]
    exact wrote

theorem answer_filed {s : MemoryStore} (filed : s.objects.Filed) (c : Call) :
    (s.answer c).2.objects.Filed := by
  rw [(s.answer_reaction c).2.1]
  rcases c.reaction_cases s.failures (s.objects.find? c.slot) with ⟨e, reaction⟩ | ⟨x, put, reaction, wrote⟩
  · rw [reaction]
    exact filed
  · rw [reaction]
    refine filed.putAny fun y there => ?_
    exact wrote.fits (filed.fits c.slot) y (by rw [show put = some y from there]; rfl)

inductive Step where
  | insertResource (r : Resource)
  | insertDescriptor (c : ComponentDescriptor)
  | insertSnapshot (p : Snapshot)
  | removeDescriptor (key : ObjectKey)
  | failOn (operation : Operation) (reason : String)
  | clearFailures
  | call (c : Call)

def step (s : MemoryStore) : Step → MemoryStore
  | .insertResource r => s.insertResource r
  | .insertDescriptor c => s.insertDescriptor c
  | .insertSnapshot p => s.insertSnapshot p
  | .removeDescriptor key => s.removeDescriptor key
  | .failOn operation reason => s.failOn operation reason
  | .clearFailures => s.clearFailures
  | .call c => (s.answer c).2

def steps (s : MemoryStore) (done : List Step) : MemoryStore := done.foldl step s

def Step.calls (operation : Operation) : Step → Bool
  | .call c => c.operation = operation
  | _ => false

variable {s : MemoryStore}

theorem step_filed (filed : s.objects.Filed) (done : Step) : (s.step done).objects.Filed := by
  cases done with
  | insertResource r => exact filed.put (.resource r.key) r rfl
  | insertDescriptor c => exact filed.put (.descriptor c.metadata.key) c rfl
  | insertSnapshot p => exact filed.put (.snapshot p.key) p rfl
  | removeDescriptor key => exact { filed with descriptors := filed.descriptors.erase key }
  | failOn | clearFailures => exact filed
  | call c => exact answer_filed filed c

theorem step_calls (s : MemoryStore) (done : Step) (operation : Operation) :
    (s.step done).calls operation = s.calls operation + if done.calls operation then 1 else 0 := by
  cases done with
  | call c => simp [step, Step.calls, calls_answer]
  | _ => rfl

theorem steps_filed (filed : s.objects.Filed) (done : List Step) : (s.steps done).objects.Filed := by
  induction done generalizing s with
  | nil => exact filed
  | cons first rest ih => exact ih (step_filed filed first)

theorem steps_calls (s : MemoryStore) (done : List Step) (operation : Operation) :
    (s.steps done).calls operation = s.calls operation + done.countP (Step.calls operation) := by
  induction done generalizing s with
  | nil => rfl
  | cons first rest ih =>
    rw [steps, List.foldl_cons, ← steps, ih, step_calls, List.countP_cons]
    omega

/-- Of a store that was empty at first, and of each call that may come next: each object lies under its own key,
the calls made so far were counted, and the next one changes nothing but its slot. -/
structure Intact (s : MemoryStore) (done : List Step) : Prop where
  filed : s.objects.Filed
  counted : ∀ operation, s.calls operation = done.countP (Step.calls operation)
  contained : ∀ c : Call, c.Contained s.objects (s.answer c).1 (s.answer c).2.objects

theorem intact_of_steps (done : List Step) : Intact (steps {} done) done where
  filed := steps_filed ⟨.nil, .nil, .nil⟩ done
  counted operation := by
    rw [steps_calls]
    exact Nat.zero_add _
  contained c := answer_contained _ c

end MemoryStore
end Stowage
