import Mathlib.Logic.Function.Basic
import Stowage.Proofs.Cluster.Request

/-! What a server does that holds a document in each slot. It tells what it holds, takes what is new, and merges
patches; what it takes it completes by metadata of its own. For such a server it is told what the calls of a pass
come to, and how the documents it holds are read before and after. -/
namespace Stowage

def Slot.decoder : (slot : Slot) → Decoder slot.Content
  | resource _ => Resource.decoder
  | descriptor _ => ComponentDescriptor.decoder
  | snapshot _ => Snapshot.decoder

namespace Cluster

abbrev Holdings := Slot → Option Document

/-- A reply that tells the document of a slot: its text is read as the object that the document is read as. -/
inductive Grants (slot : Slot) : Reply → Document → Prop
  | response {code : Nat} {text : String} {d : Document} (success : 200 ≤ code ∧ code ≤ 299)
      (told : ∀ x, slot.decoder.read d = .ok x → slot.decoder.readText text = .ok x) :
    Grants slot (.response code text) d

inductive Refuses : Reply → String → Nat → Prop
  | response {code : Nat} {text status message reason : String}
      (told : readBody refusal text = .ok (.refused status message reason code)) :
    Refuses (.response code text) reason code

def serverManaged : List String :=
  ["uid", "resourceVersion", "selfLink", "generation", "creationTimestamp", "deletionTimestamp",
    "deletionGracePeriodSeconds", "managedFields"]

/-- What a server makes of the members that it is to hold: its own part of the metadata may be another one. -/
structure Stores (members : String → Option Document) (d : Document) : Prop where
  object : d.isObject = true
  others : ∀ name, name ≠ "metadata" → d.get? name = members name
  metadata : ∃ given kept m, members "metadata" = some given ∧ d.get? "metadata" = some kept ∧
    Metadata.decoder.read kept = .ok m ∧ ∀ name ∉ serverManaged, kept.get? name = given.get? name

/-- The members of a document once a patch is merged into its status only. -/
def withStatus (base patch : Document) (name : String) : Option Document :=
  if name = "status" then (base.merge patch).get? name else base.get? name

/-- How a server serves what is asked of it: the reply, and what it holds then. -/
inductive Serves (o : Holdings) : Intent → Reply → Holdings → Prop
  | found {slot : Slot} {d : Document} {reply : Reply} (held : o slot = some d) (granted : Grants slot reply d) :
    Serves o (.get slot) reply o
  | missing {slot : Slot} {reply : Reply} (absent : o slot = none) (refused : Refuses reply "NotFound" 404) :
    Serves o (.get slot) reply o
  | created {slot : Slot} {given d : Document} {reply : Reply} (absent : o slot = none)
      (stored : Stores (fun name => given.get? name) d) (granted : Grants slot reply d) :
    Serves o (.create slot given) reply (Function.update o slot (some d))
  | conflict {slot : Slot} {given d : Document} {reply : Reply} (held : o slot = some d)
      (refused : Refuses reply "AlreadyExists" 409) : Serves o (.create slot given) reply o
  | patched {slot : Slot} {base patch d : Document} {reply : Reply} (held : o slot = some base)
      (stored : Stores (fun name => (base.merge patch).get? name) d) (granted : Grants slot reply d) :
    Serves o (.patch slot patch) reply (Function.update o slot (some d))
  | statusPatched {slot : Slot} {base patch d : Document} {reply : Reply} (held : o slot = some base)
      (stored : Stores (withStatus base patch) d) (granted : Grants slot reply d) :
    Serves o (.patchStatus slot patch) reply (Function.update o slot (some d))
  | unpatched {slot : Slot} {patch : Document} {reply : Reply} (absent : o slot = none)
      (refused : Refuses reply "NotFound" 404) : Serves o (.patch slot patch) reply o
  | statusUnpatched {slot : Slot} {patch : Document} {reply : Reply} (absent : o slot = none)
      (refused : Refuses reply "NotFound" 404) : Serves o (.patchStatus slot patch) reply o

section Replies

variable {reply : Reply} {d : Document}

theorem accept_response {α : Type} {decoder : Decoder α} {a : α} {code : Nat} {text : String}
    (success : code ≤ 299) (read : decoder.readText text = .ok a) :
    accept decoder (.response code text) = .ok a := by
  have fine : ¬ (400 ≤ code ∧ code ≤ 599) := by omega
  rw [accept, if_neg fine, readBody, read]
  rfl

theorem Grants.accept {slot : Slot} {x : slot.Content} (granted : Grants slot reply d)
    (read : slot.decoder.read d = .ok x) : accept slot.decoder reply = .ok x := by
  cases granted with
  | response success told => exact accept_response success.2 (told x read)

theorem interpret_of_accepted {c : Call} {x : c.Result} (taken : accepted c reply = .ok x) :
    interpret c reply = .ok x := by
  rw [interpret, taken]
  rfl

theorem ifFound_of_accept {α : Type} {decoder : Decoder α} {a : α} (taken : accept decoder reply = .ok a) :
    ifFound (accept decoder reply) = .ok (some a) := by
  rw [taken]
  rfl

/-- What is refused as not found is taken as not there. -/
theorem ifFound_of_refuses {α : Type} (decoder : Decoder α) (refused : Refuses reply "NotFound" 404) :
    ifFound (accept decoder reply) = .ok none := by
  cases refused with
  | response told =>
    rw [accept, if_pos (by decide), told]
    rfl

/-- What the calls come to when the document in their slot is told. -/
theorem interpret_getResource {key : ObjectKey} {r : Resource} (granted : Grants (.resource key) reply d)
    (read : Resource.decoder.read d = .ok r) : interpret (.getResource key) reply = .ok (some r) :=
  interpret_of_accepted (c := .getResource key) (ifFound_of_accept (granted.accept read))

theorem interpret_getDescriptor {key : ObjectKey} {c : ComponentDescriptor}
    (granted : Grants (.descriptor key) reply d) (read : ComponentDescriptor.decoder.read d = .ok c) :
    interpret (.getDescriptor key) reply = .ok (some c) :=
  interpret_of_accepted (c := .getDescriptor key) (ifFound_of_accept (granted.accept read))

theorem interpret_getSnapshot {key : ObjectKey} {p : Snapshot} (granted : Grants (.snapshot key) reply d)
    (read : Snapshot.decoder.read d = .ok p) : interpret (.getSnapshot key) reply = .ok (some p) :=
  interpret_of_accepted (c := .getSnapshot key) (ifFound_of_accept (granted.accept read))

theorem interpret_createSnapshot {p p' : Snapshot} (granted : Grants (.snapshot p.key) reply d)
    (read : Snapshot.decoder.read d = .ok p') : interpret (.createSnapshot p) reply = .ok p' :=
  interpret_of_accepted (c := .createSnapshot p) (granted.accept read)

theorem interpret_updateSnapshot {key : ObjectKey} {spec : SnapshotSpec} {p : Snapshot}
    (granted : Grants (.snapshot key) reply d) (read : Snapshot.decoder.read d = .ok p) :
    interpret (.updateSnapshot key spec) reply = .ok p :=
  interpret_of_accepted (c := .updateSnapshot key spec) (granted.accept read)

theorem interpret_patchStatus {key : ObjectKey} {patch : Document} {r : Resource}
    (granted : Grants (.resource key) reply d) (read : Resource.decoder.read d = .ok r) :
    interpret (.patchStatus key patch) reply = .ok () := by
  have whole : accept Resource.decoder reply = .ok r := granted.accept read
  exact interpret_of_accepted (c := .patchStatus key patch) (congrArg (Functor.map fun _ => ()) whole)

/-- What the calls that read come to when there is nothing in their slot. -/
theorem interpret_getResource_missing {key : ObjectKey} (refused : Refuses reply "NotFound" 404) :
    interpret (.getResource key) reply = .ok none :=
  interpret_of_accepted (c := .getResource key) (ifFound_of_refuses _ refused)

theorem interpret_getDescriptor_missing {key : ObjectKey} (refused : Refuses reply "NotFound" 404) :
    interpret (.getDescriptor key) reply = .ok none :=
  interpret_of_accepted (c := .getDescriptor key) (ifFound_of_refuses _ refused)

theorem interpret_getSnapshot_missing {key : ObjectKey} (refused : Refuses reply "NotFound" 404) :
    interpret (.getSnapshot key) reply = .ok none :=
  interpret_of_accepted (c := .getSnapshot key) (ifFound_of_refuses _ refused)

end Replies

namespace Serves

variable {o o' : Holdings} {slot : Slot} {reply : Reply} {d : Document}

theorem get_cases (serves : Serves o (.get slot) reply o') :
    o' = o ∧ ((∃ d, o slot = some d ∧ Grants slot reply d) ∨ o slot = none ∧ Refuses reply "NotFound" 404) := by
  cases serves with
  | found held granted => exact ⟨rfl, .inl ⟨_, held, granted⟩⟩
  | missing absent refused => exact ⟨rfl, .inr ⟨absent, refused⟩⟩

theorem create_of_absent (serves : Serves o (.create slot d) reply o') (absent : o slot = none) :
    ∃ d', Stores (fun name => d.get? name) d' ∧ Grants slot reply d' ∧ o' = Function.update o slot (some d') := by
  cases serves with
  | created _ stored granted => exact ⟨_, stored, granted, rfl⟩
  | conflict held => rw [absent] at held; cases held

theorem patch_of_held {patch : Document} (serves : Serves o (.patch slot patch) reply o')
    (held : o slot = some d) : ∃ d', Stores (fun name => (d.merge patch).get? name) d' ∧ Grants slot reply d' ∧
      o' = Function.update o slot (some d') := by
  cases serves with
  | patched held' stored granted =>
    rw [held] at held'
    cases held'
    exact ⟨_, stored, granted, rfl⟩
  | unpatched absent => rw [held] at absent; cases absent

theorem patchStatus_of_held {patch : Document} (serves : Serves o (.patchStatus slot patch) reply o')
    (held : o slot = some d) : ∃ d', Stores (withStatus d patch) d' ∧ Grants slot reply d' ∧
      o' = Function.update o slot (some d') := by
  cases serves with
  | statusPatched held' stored granted =>
    rw [held] at held'
    cases held'
    exact ⟨_, stored, granted, rfl⟩
  | statusUnpatched absent => rw [held] at absent; cases absent

end Serves

end Cluster

namespace Document

/-- A patch of one member leaves the others. -/
theorem get?_merge_other {d p : Document} {name other : String} (apart : other ≠ name) :
    (d.merge (.ofMembers [(name, p)])).get? other = d.get? other := by
  have distinct : (Table.keys (Table.ofList [(name, p)])).Nodup := (Table.ordered_ofList _).nodup
  have absent : Table.get? other (Table.ofList [(name, p)]) = none := by
    rw [Table.get?_ofList_of_nodup other (by simp [Table.keys]), Table.get?_cons, if_neg apart.symm]
    rfl
  rw [ofMembers, merge, get?]
  exact (get?_mergeMembers other distinct).trans (by rw [absent]; rfl)

theorem get?_merge_same (d p : Document) (name : String) :
    (d.merge (.ofMembers [(name, p)])).get? name = memberMerge (d.get? name) (some p) := by
  have distinct : (Table.keys (Table.ofList [(name, p)])).Nodup := (Table.ordered_ofList _).nodup
  have there : Table.get? name (Table.ofList [(name, p)]) = some p := by
    rw [Table.get?_ofList_of_nodup name (by simp [Table.keys]), Table.get?_cons, if_pos rfl]
  rw [ofMembers, merge, get?]
  exact (get?_mergeMembers name distinct).trans (by rw [there]; rfl)

end Document
end Stowage
