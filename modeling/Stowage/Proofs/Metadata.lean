import Stowage.Kinds.Metadata
import Stowage.Proofs.Records

/-! Metadata read back from its document. It is the same as long as its moments are read back, its tables of
texts are in order, and nothing in it stands for null. -/
namespace Stowage

namespace Table

variable {κ α : Type} [DecidableEq κ] [LT κ] [DecidableLT κ] [Std.Irrefl (α := κ) (· < ·)]
  [Trans (α := κ) (· < ·) (· < ·) (· < ·)]

/-- A key greater than all others goes to the end. -/
theorem put_eq_append {table : List (κ × α)} {key : κ} {value : α} (greater : ∀ e ∈ table, e.1 < key) :
    put key value table = table ++ [(key, value)] := by
  induction table with
  | nil => rfl
  | cons e rest ih =>
    obtain ⟨k, old⟩ := e
    have less : k < key := greater _ (.head _)
    have apart : k ≠ key := fun same => Std.lt_irrefl (same ▸ less)
    have notLess : ¬ key < k := fun other => Std.lt_irrefl (Std.lt_trans less other)
    rw [put, if_neg apart, if_neg notLess, ih fun e member => greater e (.tail _ member)]
    rfl

/-- A list in order is made into itself. -/
theorem ofList_of_ordered {table : List (κ × α)} (ordered : Ordered table) : ofList table = table := by
  have general : ∀ first rest : List (κ × α), Ordered (first ++ rest) →
      rest.foldl (fun table e => put e.1 e.2 table) first = first ++ rest := by
    intro first rest
    induction rest generalizing first with
    | nil => simp
    | cons e rest ih =>
      intro ordered
      obtain ⟨-, -, across⟩ := List.pairwise_append.mp ordered
      have last : put e.1 e.2 first = first ++ [e] :=
        put_eq_append fun e' member => across e' member e (.head _)
      have split : first ++ e :: rest = (first ++ [e]) ++ rest := by simp
      rw [List.foldl_cons, last, split]
      exact ih (first ++ [e]) (split ▸ ordered)
  exact general [] table ordered

end Table

namespace OwnerReference

theorem textField_read_named {name : String} {ms : List (String × Document)} {s : String}
    (found : Table.get? name ms = (some s).map .string) : (textField name).read (.named ms) = .ok s :=
  Fields.map_read_ok (·.getD "") (Fields.optional_read_named found (fun _ _ => rfl) fun _ _ => rfl)

theorem read_document (o : OwnerReference) : decoder.read o.document = .ok o := by
  have member (name : String) : o.document.get? name = _ := Document.get?_ofPresent name (by simp [Table.keys])
  refine (Decoder.members_read_object _ _).mpr (Fields.seq_read_ok (Fields.seq_read_ok (Fields.seq_read_ok
    (Fields.seq_read_ok (Fields.seq_read_ok (Fields.map_read_ok mk ?_) ?_) ?_) ?_) ?_) ?_)
  · exact textField_read_named (member "apiVersion")
  · exact textField_read_named (member "kind")
  · exact textField_read_named (member "name")
  · exact textField_read_named (member "uid")
  · exact Fields.optional_read_named (member "blockOwnerDeletion") (fun _ _ => rfl) fun _ _ => rfl
  · exact Fields.optional_read_named (member "controller") (fun _ _ => rfl) fun _ _ => rfl

end OwnerReference

def Moment.Kept (t : Moment) : Prop := decoder.read t.document = .ok t

namespace ManagedFields

structure Kept (m : ManagedFields) : Prop where
  fields : ∀ d ∈ m.fields, d.isNull = false
  time : ∀ t ∈ m.time, t.Kept

theorem read_document {m : ManagedFields} (kept : m.Kept) : decoder.read m.document = .ok m := by
  have member (name : String) : m.document.get? name = _ := Document.get?_ofPresent name (by simp [Table.keys])
  refine (Decoder.members_read_object _ _).mpr (Fields.seq_read_ok (Fields.seq_read_ok (Fields.seq_read_ok
    (Fields.seq_read_ok (Fields.seq_read_ok (Fields.seq_read_ok (Fields.map_read_ok mk ?_) ?_) ?_) ?_) ?_) ?_) ?_)
  · exact Fields.optional_read_named (member "apiVersion") (fun _ _ => rfl) fun _ _ => rfl
  · exact Fields.optional_read_named (member "fieldsType") (fun _ _ => rfl) fun _ _ => rfl
  · have found : m.document.get? "fieldsV1" = m.fields.map id := by
      rw [member, Option.map_id]
      rfl
    exact Fields.optional_read_named found kept.fields fun _ _ => rfl
  · exact Fields.optional_read_named (member "manager") (fun _ _ => rfl) fun _ _ => rfl
  · exact Fields.optional_read_named (member "operation") (fun _ _ => rfl) fun _ _ => rfl
  · exact Fields.optional_read_named (member "subresource") (fun _ _ => rfl) fun _ _ => rfl
  · exact Fields.optional_read_named (member "time") (fun _ _ => rfl) kept.time

end ManagedFields

namespace Metadata

theorem table_read_ofTexts {table : List (String × String)} (ordered : Table.Ordered table) :
    (Decoder.table .text).read (ofTexts table) = .ok table := by
  have same : ofTexts table = .object (table.map fun e => (e.1, .string e.2)) := by
    rw [ofTexts, Document.ofMembers, Table.ofList_of_ordered]
    exact List.pairwise_map.mpr ordered
  have members (table : List (String × String)) :
      (table.map fun e => (e.1, Document.string e.2)).mapM
        (fun e => (e.1, ·) <$> Decoder.text.read e.2) = .ok table := by
    induction table with
    | nil => rfl
    | cons e rest ih =>
      rw [List.map_cons, List.mapM_cons, ih]
      rfl
  rw [same]
  exact members table

/-- Metadata of which all parts are read back. -/
structure Kept (m : Metadata) : Prop where
  creation : ∀ t ∈ m.creationTimestamp, t.Kept
  deletion : ∀ t ∈ m.deletionTimestamp, t.Kept
  labels : ∀ table ∈ m.labels, Table.Ordered table
  annotations : ∀ table ∈ m.annotations, Table.Ordered table
  managed : ∀ fs ∈ m.managedFields, ∀ f ∈ fs, f.Kept

theorem read_document {m : Metadata} (kept : m.Kept) : decoder.read m.document = .ok m := by
  have member (name : String) : m.document.get? name = _ := Document.get?_ofPresent name (by simp [Table.keys])
  refine (Decoder.members_read_object _ _).mpr (Fields.seq_read_ok (Fields.seq_read_ok
    (Fields.seq_read_ok (Fields.seq_read_ok (Fields.seq_read_ok (Fields.seq_read_ok (Fields.seq_read_ok
    (Fields.seq_read_ok (Fields.seq_read_ok (Fields.seq_read_ok (Fields.seq_read_ok (Fields.seq_read_ok
    (Fields.seq_read_ok (Fields.seq_read_ok (Fields.map_read_ok mk ?_) ?_) ?_) ?_) ?_) ?_) ?_) ?_) ?_)
    ?_) ?_) ?_) ?_) ?_) ?_)
  · exact Fields.optional_read_named (member "name") (fun _ _ => rfl) fun _ _ => rfl
  · exact Fields.optional_read_named (member "generateName") (fun _ _ => rfl) fun _ _ => rfl
  · exact Fields.optional_read_named (member "namespace") (fun _ _ => rfl) fun _ _ => rfl
  · exact Fields.optional_read_named (member "uid") (fun _ _ => rfl) fun _ _ => rfl
  · exact Fields.optional_read_named (member "resourceVersion") (fun _ _ => rfl) fun _ _ => rfl
  · exact Fields.optional_read_named (member "selfLink") (fun _ _ => rfl) fun _ _ => rfl
  · exact Fields.optional_read_named (member "generation") (fun _ _ => rfl) fun n _ => Decoder.int64_read_document n
  · exact Fields.optional_read_named (member "creationTimestamp") (fun _ _ => rfl) kept.creation
  · exact Fields.optional_read_named (member "deletionTimestamp") (fun _ _ => rfl) kept.deletion
  · exact Fields.optional_read_named (member "deletionGracePeriodSeconds") (fun _ _ => rfl) fun n _ =>
      Decoder.int64_read_document n
  · exact Fields.optional_read_named (member "labels") (fun _ _ => rfl) fun table held =>
      table_read_ofTexts (kept.labels table held)
  · exact Fields.optional_read_named (member "annotations") (fun _ _ => rfl) fun table held =>
      table_read_ofTexts (kept.annotations table held)
  · exact Fields.optional_read_named (member "ownerReferences") (fun _ _ => rfl) fun os _ =>
      Decoder.list_read_map fun o _ => o.read_document
  · exact Fields.optional_read_named (member "finalizers") (fun _ _ => rfl) fun fs _ =>
      Decoder.list_read_map fun _ _ => rfl
  · exact Fields.optional_read_named (member "managedFields") (fun _ _ => rfl) fun fs held =>
      Decoder.list_read_map fun f member => ManagedFields.read_document (kept.managed fs held f member)

/-- Owners are read of their own member. -/
theorem read_ownerReferences {ms : List (String × Document)} {m : Metadata}
    (read : decoder.read (.object ms) = .ok m) :
    (Fields.optional "ownerReferences" (.list OwnerReference.decoder)).read (.named ms) =
      .ok m.ownerReferences := by
  simp only [decoder, Decoder.members_read_object, Fields.seq_read_eq_ok_iff, Fields.map_read_eq_ok_iff] at read
  -- The fields are nested to the left: the name is read innermost, and the owners third from the outside.
  obtain ⟨_, ⟨_, ⟨_, ⟨_, ⟨_, ⟨_, ⟨_, ⟨_, ⟨_, ⟨_, ⟨_, ⟨_, ⟨_, ⟨_, ⟨_, _, rfl⟩, _, _, rfl⟩, _, _, rfl⟩, _, _,
    rfl⟩, _, _, rfl⟩, _, _, rfl⟩, _, _, rfl⟩, _, _, rfl⟩, _, _, rfl⟩, _, _, rfl⟩, _, _, rfl⟩, _, _, rfl⟩,
    owners, found, rfl⟩, _, _, rfl⟩, _, _, rfl⟩ := read
  exact found

/-- Owners are as they were written, whatever else the metadata says. -/
theorem ownerReferences_of_get? {d : Document} {m : Metadata} {owners : Option (List OwnerReference)}
    (read : decoder.read d = .ok m)
    (found : d.get? "ownerReferences" = owners.map fun os => .array (os.map OwnerReference.document)) :
    m.ownerReferences = owners := by
  obtain ⟨ms, rfl⟩ := Decoder.members_read_ok read
  have written : (Fields.optional "ownerReferences" (.list OwnerReference.decoder)).read (.named ms) =
      .ok owners :=
    Fields.optional_read_named found (fun _ _ => rfl) fun os _ => Decoder.list_read_map fun o _ => o.read_document
  exact Except.ok.inj ((read_ownerReferences read).symm.trans written)

theorem ownerReferences_eq {d d' : Document} {m m' : Metadata} (read : decoder.read d = .ok m)
    (read' : decoder.read d' = .ok m') (same : d.get? "ownerReferences" = d'.get? "ownerReferences") :
    m'.ownerReferences = m.ownerReferences := by
  obtain ⟨ms, rfl⟩ := Decoder.members_read_ok read
  obtain ⟨ms', rfl⟩ := Decoder.members_read_ok read'
  have owners : (Fields.optional "ownerReferences" (.list OwnerReference.decoder)).read (.named ms') =
      .ok m.ownerReferences := by
    refine (Decoder.overlooks_eq _).optional.read ?_ (read_ownerReferences read)
    rw [List.forall_mem_singleton]
    exact Document.optionRel_of_eq (fun _ => rfl) same
  exact Except.ok.inj ((read_ownerReferences read').symm.trans owners)

end Metadata
end Stowage
