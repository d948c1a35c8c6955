import Stowage.Proofs.Cluster.Server

/-! Objects as a server holds them. A resource is held by a document that it is read from; of a snapshot only what
it refers to and whom it belongs to has to be the same. What a server makes of a new snapshot, of another reference
and of another status holds the object that the store in memory comes to. -/
namespace Stowage

open Cluster (Stores withStatus)

section Merged

variable {α : Type} {name : String} {decoder : Decoder α} {bs ms : List (String × Document)}
  {before after : Option α}

/-- Merging the change of an optional field leads from what was read of it to what it is to be, however it was
written before. -/
theorem Fields.optional_read_merged (write : α → Document)
    (plain : ∀ x, (write x).isNull = false ∧ (write x).isObject = false)
    (lawful : ∀ x y, write x == write y ↔ x = y) (back : ∀ x, decoder.read (write x) = .ok x)
    (read : (optional name decoder).read (.named bs) = .ok before)
    (merged : Table.get? name ms = Document.memberMerge (Table.get? name bs)
      (Document.memberPatch (before.map write) (after.map write))) :
    (optional name decoder).read (.named ms) = .ok after := by
  cases change : Document.memberPatch (before.map write) (after.map write) with
  | none =>
    have same : before = after := (Document.memberPatch_eq_none write plain lawful before after).mp change
    have still : Table.get? name bs = Table.get? name ms := by
      rw [merged, change]
      rfl
    rw [← same]
    refine (Decoder.overlooks_eq decoder).optional.read ?_ read
    rw [List.forall_mem_singleton]
    exact Document.optionRel_of_eq (fun _ => rfl) still
  | some p =>
    rw [change, Document.memberMerge_of_memberPatch write plain change] at merged
    exact optional_read_named merged (fun x _ => (plain x).1) fun x _ => back x

end Merged

namespace Document

/-- Merging makes null of nothing but null. -/
theorem merge_proper {d p : Document} (proper : p.isNull = false) : (d.merge p).isNull = false := by
  cases p with
  | object ms => rw [merge]; rfl
  | _ => simpa [merge] using proper

end Document

namespace ResourceStatus

theorem read_object_iff {s : ResourceStatus} {ms : List (String × Document)} :
    decoder.read (.object ms) = .ok s ↔
      (Fields.optional "observedGeneration" .int64).read (.named ms) = .ok s.observedGeneration ∧
      (Fields.optional "lastAppliedResourceVersion" .text).read (.named ms) = .ok s.lastAppliedVersion := by
  simp only [decoder, Decoder.record_read_object, Fields.seq_read_eq_ok_iff, Fields.map_read_eq_ok_iff]
  constructor
  · rintro ⟨_, ⟨generation, first, rfl⟩, version, second, rfl⟩
    exact ⟨first, second⟩
  · rintro ⟨first, second⟩
    exact ⟨_, ⟨_, first, rfl⟩, _, second, rfl⟩

/-- Merging the changes between two statuses leads from every writing of the one to a writing of the other. -/
theorem read_merge {before after : ResourceStatus} {base changes : Document}
    (read : decoder.read (.object base.members) = .ok before)
    (differ : before.document.changes after.document = some changes) :
    decoder.read (base.merge changes) = .ok after := by
  obtain ⟨generation, version⟩ := read_object_iff.mp read
  obtain ⟨ms, merged, member⟩ :=
    Document.merge_changes before.keys_document_nodup after.keys_document_nodup differ base
  rw [merged]
  refine read_object_iff.mpr ⟨?_, ?_⟩
  · refine Fields.optional_read_merged .int64 (fun _ => ⟨rfl, rfl⟩) Document.beq_int64_iff
      Decoder.int64_read_document generation ?_
    rw [← get?_generation, ← get?_generation]
    exact member _
  · refine Fields.optional_read_merged .string (fun _ => ⟨rfl, rfl⟩) Document.beq_string_iff
      Decoder.text_read_string version ?_
    rw [← get?_version, ← get?_version]
    exact member _

end ResourceStatus

/-- A document by which a resource is held, with its status as an object if it has one. -/
structure Resource.HeldBy (r : Resource) (d : Document) : Prop where
  object : d.isObject = true
  read : Resource.decoder.read d = .ok r
  status : ∀ s, d.get? "status" = some s → s.isObject = true ∨ s.isNull = true

namespace Resource

variable {r : Resource} {d d' : Document}

/-- The status that such a document says. -/
theorem HeldBy.read_status (held : r.HeldBy d) :
    ResourceStatus.decoder.read (.object ((d.get? "status").getD .null).members) = .ok (r.status.getD {}) := by
  obtain ⟨ms, rfl⟩ := Document.exists_of_isObject held.object
  have shape := held.status
  obtain ⟨-, -, ⟨absent, unset⟩ | ⟨s, found, read⟩⟩ := read_object_iff.mp held.read
  · have nothing : (Document.object ms).get? "status" = none := absent
    rw [nothing, ← unset]
    rfl
  · have there : (Document.object ms).get? "status" = some s := found
    rw [there, Option.getD_some]
    rcases shape s there with object | null
    · obtain ⟨inner, rfl⟩ := Document.exists_of_isObject object
      obtain ⟨status, inside, same⟩ := Decoder.orNull_read_ok rfl read
      rw [← same]
      exact inside
    · rw [Document.eq_null_of_isNull null] at read ⊢
      rw [← Except.ok.inj read]
      rfl

/-- What a server makes of a patch of the status holds the resource with the new status. -/
theorem HeldBy.patched {before after : ResourceStatus} {patch : Document} (held : r.HeldBy d)
    (loaded : r.status.getD {} = before) (changed : before.patch? after = some patch)
    (stored : Stores (withStatus d patch) d') :
    ∃ r', decoder.read d' = .ok r' ∧ r'.status = some after := by
  obtain ⟨changes, differ, rfl⟩ := Option.map_eq_some_iff.mp changed
  obtain ⟨ms, rfl⟩ := Document.exists_of_isObject held.object
  obtain ⟨ms', rfl⟩ := Document.exists_of_isObject stored.object
  obtain ⟨-, ⟨spec, there, read⟩, -⟩ := read_object_iff.mp held.read
  obtain ⟨given, kept, m, -, metadata, readable, -⟩ := stored.metadata
  have spec' : Table.get? "spec" ms' = some spec := (stored.others "spec" (by decide)).trans there
  have status := held.read_status
  rw [loaded] at status
  have merged := ResourceStatus.read_merge status differ
  have proper : changes.isNull = false := by
    obtain rfl := Document.patch_members differ
    rfl
  have status' : Table.get? "status" ms' =
      some ((((Document.object ms).get? "status").getD .null).merge changes) := by
    refine (stored.others "status" (by decide)).trans ?_
    rw [withStatus, if_pos rfl, Document.get?_merge_same, Document.memberMerge, proper]
    rfl
  refine ⟨⟨m, r.spec, some after⟩, read_object_iff.mpr ⟨⟨kept, metadata, readable⟩, ⟨spec, spec', read⟩, ?_⟩, rfl⟩
  refine .inr ⟨_, status', ?_⟩
  rw [Decoder.orNull_read _ (Document.merge_proper proper), merged]
  rfl

end Resource

namespace SnapshotSpec

/-- Merging a spec gives it, whatever was there. -/
theorem read_merge (s : SnapshotSpec) (base : Document) : decoder.read (base.merge s.document) = .ok s := by
  have there : (base.merge s.document).get? "ref" = some (.string s.reference) := by
    rw [document, Document.get?_merge_same, Document.memberMerge, Document.merge_of_scalar _ rfl]
    rfl
  obtain ⟨ms, merged⟩ : ∃ ms, base.merge s.document = .object ms :=
    ⟨_, by rw [document, Document.ofMembers, Document.merge]⟩
  rw [merged] at there ⊢
  refine (Decoder.record_read_object _ _).mpr (Fields.map_read_ok mk ?_)
  exact Fields.required_read_named there rfl

end SnapshotSpec

/-- A document by which a snapshot is held: it says the same reference and the same owners. -/
structure Snapshot.HeldBy (p : Snapshot) (d : Document) : Prop where
  object : d.isObject = true
  read : ∃ p', Snapshot.decoder.read d = .ok p' ∧ p'.spec = p.spec ∧
    p'.metadata.ownerReferences = p.metadata.ownerReferences

namespace Snapshot

variable {p : Snapshot} {d d' : Document}

/-- What a server makes of a new snapshot holds it. -/
theorem heldBy_of_created (stored : Stores (fun name => p.document.get? name) d) : p.HeldBy d := by
  obtain ⟨given, kept, m, sent, metadata, readable, same⟩ := stored.metadata
  obtain rfl : p.metadata.document = given := by
    have whole : p.document.get? "metadata" = some p.metadata.document := get?_kindDocument ..
    exact Option.some.inj (whole.symm.trans sent)
  have spec : d.get? "spec" = some p.spec.document :=
    (stored.others "spec" (by decide)).trans (get?_kindDocument ..)
  have owners : kept.get? "ownerReferences" =
      p.metadata.ownerReferences.map fun os => .array (os.map OwnerReference.document) := by
    rw [same "ownerReferences" (by decide)]
    exact Document.get?_ofPresent _ (by simp [Table.keys])
  obtain ⟨ms, rfl⟩ := Document.exists_of_isObject stored.object
  refine ⟨rfl, ⟨m, p.spec⟩, ?_, rfl, Metadata.ownerReferences_of_get? readable owners⟩
  exact read_object_iff.mpr ⟨⟨kept, metadata, readable⟩, _, spec, p.spec.read_document⟩

/-- What a server makes of a patch of the spec holds the snapshot with the new spec. -/
theorem HeldBy.patched {spec : SnapshotSpec} (held : p.HeldBy d)
    (stored : Stores (fun name => (d.merge (.ofMembers [("spec", spec.document)])).get? name) d') :
    HeldBy { p with spec } d' := by
  obtain ⟨ms, rfl⟩ := Document.exists_of_isObject held.object
  obtain ⟨p', read, -, owners⟩ := held.read
  obtain ⟨⟨metadata, found, readable⟩, -⟩ := read_object_iff.mp read
  obtain ⟨given, kept, m, sent, metadata', readable', same⟩ := stored.metadata
  obtain rfl : metadata = given := by
    rw [Document.get?_merge_other (by decide)] at sent
    exact Option.some.inj (found.symm.trans sent)
  have spec' : d'.get? "spec" = some ((((Document.object ms).get? "spec").getD .null).merge spec.document) := by
    rw [stored.others "spec" (by decide), Document.get?_merge_same]
    rfl
  obtain ⟨ms', rfl⟩ := Document.exists_of_isObject stored.object
  refine ⟨rfl, ⟨m, spec⟩, ?_, rfl, ?_⟩
  · exact read_object_iff.mpr ⟨⟨kept, metadata', readable'⟩, _, spec', spec.read_merge _⟩
  · exact (Metadata.ownerReferences_eq readable readable' (same _ (by decide)).symm).trans owners

end Snapshot

namespace Slot

def Holds : (slot : Slot) → slot.Content → Document → Prop
  | resource _, (r : Resource), d => r.HeldBy d
  | descriptor _, (c : ComponentDescriptor), d => ComponentDescriptor.decoder.read d = .ok c
  | snapshot _, (p : Snapshot), d => p.HeldBy d

/-- A document with what a pass leaves in a slot: of a resource, that is the status. -/
def Tallies : (slot : Slot) → slot.Content → Document → Prop
  | resource _, (r : Resource), d => ∃ r', Resource.decoder.read d = .ok r' ∧ r'.status = r.status
  | descriptor _, (c : ComponentDescriptor), d => ComponentDescriptor.decoder.read d = .ok c
  | snapshot _, (p : Snapshot), d => p.HeldBy d

def metadata : (slot : Slot) → slot.Content → Metadata
  | resource _, (r : Resource) => r.metadata
  | descriptor _, (c : ComponentDescriptor) => c.metadata
  | snapshot _, (p : Snapshot) => p.metadata

def document : (slot : Slot) → slot.Content → Document
  | resource _, (r : Resource) => r.document
  | descriptor _, (c : ComponentDescriptor) => c.document
  | snapshot _, (p : Snapshot) => p.document

/-- An object is held by its own document, if that gives back its metadata. -/
theorem holds_document {slot : Slot} {x : slot.Content}
    (kept : Metadata.decoder.read (slot.metadata x).document = .ok (slot.metadata x)) :
    slot.Holds x (slot.document x) := by
  cases slot with
  | resource =>
    refine ⟨rfl, Resource.read_document kept, ?_⟩
    intro s written
    have status : (Resource.document x).get? "status" = (Resource.status x).map ResourceStatus.document :=
      get?_kindDocument ..
    obtain ⟨inner, -, rfl⟩ := Option.map_eq_some_iff.mp (status.symm.trans written)
    exact .inl rfl
  | descriptor => exact ComponentDescriptor.read_document kept
  | snapshot => exact ⟨rfl, x, Snapshot.read_document kept, rfl, rfl⟩

theorem tallies_of_holds {slot : Slot} {x : slot.Content} {d : Document} (holds : slot.Holds x d) :
    slot.Tallies x d := by
  cases slot with
  | resource => exact ⟨x, holds.read, rfl⟩
  | descriptor => exact holds
  | snapshot => exact holds

end Slot

namespace Cluster

/-- In each slot there is a document on the one side exactly when there is an object on the other, and the two are
related. -/
def Pairs (rel : (slot : Slot) → slot.Content → Document → Prop) (o : Holdings) (b : Objects) : Prop :=
  ∀ slot, Option.Rel (rel slot) (b.find? slot) (o slot)

abbrev Mirrors : Holdings → Objects → Prop := Pairs Slot.Holds

def documents (b : Objects) : Holdings := fun slot => (b.find? slot).map slot.document

theorem mirrors_documents {b : Objects} (kept : ∀ slot x, b.find? slot = some x →
    Metadata.decoder.read (slot.metadata x).document = .ok (slot.metadata x)) : Mirrors (documents b) b := by
  intro slot
  rw [documents]
  cases found : b.find? slot with
  | none => exact .none
  | some x => exact .some (Slot.holds_document (kept slot x found))

namespace Pairs

variable {rel : (slot : Slot) → slot.Content → Document → Prop} {o : Holdings} {b : Objects}

theorem of_held (pairs : Pairs rel o b) {slot : Slot} {d : Document} (held : o slot = some d) :
    ∃ x, b.find? slot = some x ∧ rel slot x d := by
  have paired := pairs slot
  rw [held] at paired
  generalize b.find? slot = found at paired ⊢
  cases paired with
  | some related => exact ⟨_, rfl, related⟩

theorem of_unheld (pairs : Pairs rel o b) {slot : Slot} (absent : o slot = none) : b.find? slot = none := by
  have paired := pairs slot
  rw [absent] at paired
  generalize b.find? slot = found at paired ⊢
  cases paired with
  | none => rfl

theorem of_found (pairs : Pairs rel o b) (slot : Slot) {x : slot.Content} (found : b.find? slot = some x) :
    ∃ d, o slot = some d ∧ rel slot x d := by
  have paired := pairs slot
  rw [found] at paired
  generalize o slot = held at paired ⊢
  cases paired with
  | some related => exact ⟨_, rfl, related⟩

theorem of_missing (pairs : Pairs rel o b) (slot : Slot) (missing : b.find? slot = none) : o slot = none := by
  have paired := pairs slot
  rw [missing] at paired
  generalize o slot = held at paired ⊢
  cases paired with
  | none => rfl

theorem put (pairs : Pairs rel o b) (slot : Slot) {x : slot.Content} {d : Document} (related : rel slot x d) :
    Pairs rel (Function.update o slot (some d)) (b.put slot x) := by
  intro other
  by_cases same : other = slot
  · subst same
    rw [Function.update_self, Objects.find?_put_same]
    exact .some related
  · rw [Function.update_of_ne same, Objects.find?_put_other _ same]
    exact pairs other

theorem mono {rel' : (slot : Slot) → slot.Content → Document → Prop} (pairs : Pairs rel o b)
    (wider : ∀ slot x d, rel slot x d → rel' slot x d) : Pairs rel' o b := by
  intro slot
  have paired := pairs slot
  generalize b.find? slot = found, o slot = held at paired
  cases paired with
  | none => exact .none
  | some related => exact .some (wider slot _ _ related)

end Pairs

theorem Mirrors.tallies {o : Holdings} {b : Objects} (mirrors : Mirrors o b) : Pairs Slot.Tallies o b :=
  Pairs.mono mirrors fun _ _ _ => Slot.tallies_of_holds

/-- What is got of a server that holds these objects is an object of them. -/
theorem Mirrors.get {o o' : Holdings} {b : Objects} {slot : Slot} {reply : Reply} (mirrors : Mirrors o b)
    (serves : Serves o (.get slot) reply o') :
    o' = o ∧ ((∃ x d, b.find? slot = some x ∧ slot.Holds x d ∧ Grants slot reply d) ∨
      b.find? slot = none ∧ Refuses reply "NotFound" 404) := by
  obtain ⟨still, ⟨d, held, granted⟩ | ⟨absent, refused⟩⟩ := serves.get_cases
  · obtain ⟨x, found, holds⟩ := mirrors.of_held held
    exact ⟨still, .inl ⟨x, d, found, holds, granted⟩⟩
  · exact ⟨still, .inr ⟨mirrors.of_unheld absent, refused⟩⟩

end Cluster
end Stowage
