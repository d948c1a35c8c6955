import Stowage.Proofs.Store

/-! Where an object lies in a store. A call is about one slot: what it comes to depends on the object there
and on the failures that are set, and it stores nothing elsewhere. Calls about different slots can be made
in either order. -/
namespace Stowage

namespace ObjectKey

instance : Std.Irrefl (α := ObjectKey) (· < ·) where
  irrefl k := by
    rintro (less | ⟨_, less⟩) <;> exact Std.lt_irrefl less

instance : Trans (α := ObjectKey) (· < ·) (· < ·) (· < ·) where
  trans := by
    rintro a b c (first | ⟨same, first⟩) (second | ⟨same', second⟩)
    · exact .inl (Std.lt_trans first second)
    · exact .inl (same' ▸ first)
    · exact .inl (same ▸ second)
    · exact .inr ⟨same.trans same', Std.lt_trans first second⟩

instance : Std.Trichotomous (α := ObjectKey) (· < ·) where
  trichotomous := by
    rintro ⟨ns, n⟩ ⟨ns', n'⟩ notLess notGreater
    obtain ⟨namespaces, names⟩ := not_or.mp notLess
    obtain ⟨namespaces', names'⟩ := not_or.mp notGreater
    have same : ns = ns' := Std.Trichotomous.trichotomous (r := (· < ·)) ns ns' namespaces namespaces'
    subst same
    have same : n = n' := Std.Trichotomous.trichotomous (r := (· < ·)) n n'
      (fun less => names ⟨rfl, less⟩) (fun less => names' ⟨rfl, less⟩)
    subst same
    rfl

end ObjectKey

inductive Slot where
  | resource (key : ObjectKey)
  | descriptor (key : ObjectKey)
  | snapshot (key : ObjectKey)
deriving DecidableEq

def Slot.Content : Slot → Type
  | resource _ => Resource
  | descriptor _ => ComponentDescriptor
  | snapshot _ => Snapshot

namespace Objects

variable (o : Objects)

def find? : (slot : Slot) → Option slot.Content
  | .resource key => Table.get? key o.resources
  | .descriptor key => Table.get? key o.descriptors
  | .snapshot key => Table.get? key o.snapshots

def put : (slot : Slot) → slot.Content → Objects
  | .resource key, r => { o with resources := Table.put key r o.resources }
  | .descriptor key, c => { o with descriptors := Table.put key c o.descriptors }
  | .snapshot key, p => { o with snapshots := Table.put key p o.snapshots }

def putAny (slot : Slot) (content : Option slot.Content) : Objects :=
  match content with
  | none => o
  | some x => o.put slot x

theorem find?_put_same (slot : Slot) (x : slot.Content) : (o.put slot x).find? slot = some x := by
  cases slot <;> exact Table.get?_put_same ..

theorem find?_put_other {slot other : Slot} (apart : slot ≠ other) (x : other.Content) :
    (o.put other x).find? slot = o.find? slot := by
  cases slot <;> cases other <;> try rfl
  all_goals exact Table.get?_put_other (fun same => apart (congrArg _ same)) ..

theorem put_comm {slot other : Slot} (apart : slot ≠ other) (x : slot.Content) (y : other.Content) :
    (o.put other y).put slot x = (o.put slot x).put other y := by
  cases slot <;> cases other <;> try rfl
  all_goals
    rw [put, put, put, put]
    congr 1
    exact Table.put_comm (fun same => apart (congrArg _ same)) ..

theorem find?_putAny_other {slot other : Slot} (apart : slot ≠ other) (x : Option other.Content) :
    (o.putAny other x).find? slot = o.find? slot := by
  cases x with
  | none => rfl
  | some x => exact o.find?_put_other apart x

theorem putAny_comm {slot other : Slot} (apart : slot ≠ other) (x : Option slot.Content)
    (y : Option other.Content) :
    (o.putAny other y).putAny slot x = (o.putAny slot x).putAny other y := by
  cases x <;> cases y <;> try rfl
  exact o.put_comm apart ..

end Objects

namespace Call

def slot : Call → Slot
  | getResource key | patchStatus key _ => .resource key
  | getDescriptor key => .descriptor key
  | getSnapshot key | updateSnapshot key _ => .snapshot key
  | createSnapshot p => .snapshot p.key

def reads : Call → Bool
  | getResource _ | getDescriptor _ | getSnapshot _ => true
  | createSnapshot _ | updateSnapshot .. | patchStatus .. => false

/-- What a call comes to when its slot holds the given object, and what it puts there. -/
def effect : (c : Call) → Option c.slot.Content → c.Answer × Option c.slot.Content
  | getResource _, found => (.ok found, none)
  | getDescriptor _, found => (.ok found, none)
  | getSnapshot _, found => (.ok found, none)
  | createSnapshot p, found =>
    match found with
    | some _ => (.error (.alreadyExists Snapshot.kind p.key), none)
    | none => (.ok p, some p)
  | updateSnapshot key spec, found =>
    match found with
    | none => (.error (.notFound Snapshot.kind key), none)
    | some (p : Snapshot) => (.ok { p with spec }, some { p with spec })
  | patchStatus key patch, found =>
    match found with
    | none => (.error (.notFound Resource.kind key), none)
    | some (r : Resource) =>
      match MemoryStore.patchedStatus r patch with
      | .error misfit => (.error (.backend Resource.kind key misfit.message), none)
      | .ok status => (.ok (), some { r with status := some status })

/-- The effect of a call, which is none where its operation is set to fail. -/
def reaction (failures : List (Operation × String)) (c : Call) (found : Option c.slot.Content) :
    c.Answer × Option c.slot.Content :=
  match failures.lookup c.operation with
  | some reason => (.error (.backend c.kind c.key reason), none)
  | none => c.effect found

theorem reaction_of_reads {c : Call} (reads : c.reads) (failures : List (Operation × String))
    (found : Option c.slot.Content) : (c.reaction failures found).2 = none := by
  rw [reaction]
  split
  · rfl
  · cases c <;> first | rfl | cases reads

/-- Calls about different slots, or calls that both only read. -/
def Apart (c c' : Call) : Prop := c.slot = c'.slot → c.reads ∧ c'.reads

end Call

namespace MemoryStore

/-- Stores with the same objects and the same failures, whatever calls they noted. -/
structure Alike (s s' : MemoryStore) : Prop where
  objects : s.objects = s'.objects
  failures : s.failures = s'.failures

theorem Alike.refl (s : MemoryStore) : s.Alike s := ⟨rfl, rfl⟩

theorem Alike.symm {s s' : MemoryStore} (h : s.Alike s') : s'.Alike s :=
  ⟨h.objects.symm, h.failures.symm⟩

theorem Alike.trans {s s' s'' : MemoryStore} (h : s.Alike s') (h' : s'.Alike s'') : s.Alike s'' :=
  ⟨h.objects.trans h'.objects, h.failures.trans h'.failures⟩

theorem perform_effect (s : MemoryStore) (c : Call) :
    (s.perform c).1 = (c.effect (s.objects.find? c.slot)).1 ∧
      (s.perform c).2.objects = s.objects.putAny c.slot (c.effect (s.objects.find? c.slot)).2 ∧
      (s.perform c).2.failures = s.failures := by
  cases c with
  | getResource | getDescriptor | getSnapshot => exact ⟨rfl, rfl, rfl⟩
  | createSnapshot p =>
    cases found : s.objects.find? (.snapshot p.key) with
    | none | some =>
      simp only [Call.slot, found, perform]
      rw [show Table.get? p.key s.snapshots = _ from found]
      exact ⟨rfl, rfl, rfl⟩
  | updateSnapshot key spec =>
    cases found : s.objects.find? (.snapshot key) with
    | none | some =>
      simp only [Call.slot, found, perform]
      rw [show Table.get? key s.snapshots = _ from found]
      exact ⟨rfl, rfl, rfl⟩
  | patchStatus key patch =>
    cases found : s.objects.find? (.resource key) with
    | none =>
      simp only [Call.slot, found, perform]
      rw [show Table.get? key s.resources = _ from found]
      exact ⟨rfl, rfl, rfl⟩
    | some r =>
      simp only [Call.slot, found, perform, Call.effect]
      rw [show Table.get? key s.resources = _ from found]
      simp only
      cases patchedStatus r patch <;> exact ⟨rfl, rfl, rfl⟩

/-- A call reacts to what is in its slot, and leaves the other slots alone. -/
theorem answer_reaction (s : MemoryStore) (c : Call) :
    (s.answer c).1 = (c.reaction s.failures (s.objects.find? c.slot)).1 ∧
      (s.answer c).2.objects =
        s.objects.putAny c.slot (c.reaction s.failures (s.objects.find? c.slot)).2 ∧
      (s.answer c).2.failures = s.failures := by
  simp only [answer, Call.reaction]
  cases s.failures.lookup c.operation with
  | some reason => exact ⟨rfl, rfl, rfl⟩
  | none => exact (s.noted c).perform_effect c

@[simp] theorem answer_failures (s : MemoryStore) (c : Call) : (s.answer c).2.failures = s.failures :=
  (s.answer_reaction c).2.2

/-- Of the stores it is made to, a call sees only the objects and the failures. -/
theorem answer_alike {s s' : MemoryStore} (alike : s.Alike s') (c : Call) :
    (s.answer c).1 = (s'.answer c).1 ∧ (s.answer c).2.Alike (s'.answer c).2 := by
  obtain ⟨answer, objects, failures⟩ := s.answer_reaction c
  obtain ⟨answer', objects', failures'⟩ := s'.answer_reaction c
  rw [alike.objects, alike.failures] at answer objects
  exact ⟨answer.trans answer'.symm, objects.trans objects'.symm,
    failures.trans (alike.failures.trans failures'.symm)⟩

/-- What a call puts into its slot is the same before and after a call that is apart from it. -/
theorem answer_apart {c c' : Call} (apart : c.Apart c') (s : MemoryStore) :
    ((s.answer c').2.answer c).1 = (s.answer c).1 ∧
      ((s.answer c').2.answer c).2.Alike ((s.answer c).2.answer c').2 := by
  obtain ⟨answer, objects, -⟩ := s.answer_reaction c
  obtain ⟨-, objects', -⟩ := s.answer_reaction c'
  obtain ⟨second, later, -⟩ := (s.answer c').2.answer_reaction c
  obtain ⟨-, later', -⟩ := (s.answer c).2.answer_reaction c'
  rw [answer_failures, objects'] at second later
  rw [answer_failures, objects] at later'
  by_cases same : c.slot = c'.slot
  · obtain ⟨reads, reads'⟩ := apart same
    rw [Call.reaction_of_reads reads'] at second later
    rw [Call.reaction_of_reads reads] at later later'
    rw [Call.reaction_of_reads reads'] at later'
    exact ⟨second.trans answer.symm, later.trans later'.symm, by simp⟩
  · rw [Objects.find?_putAny_other _ same] at second later
    rw [Objects.find?_putAny_other _ (Ne.symm same)] at later'
    refine ⟨second.trans answer.symm, ?_, by simp⟩
    rw [later, later', Objects.putAny_comm _ same]

end MemoryStore
end Stowage
