import Stowage.Kinds.ComponentDescriptor
import Stowage.Kinds.Snapshot
import Stowage.Proofs.Metadata
import Stowage.Proofs.StatusPatch

/-! The kinds as documents. A value is read back from its document, and what a document says beside the fields
that are known, of its kind among others, changes nothing. -/
namespace Stowage

open Document (Leeway AlikeItems)
open Decoder (overlooks_eq overlooks_record)

theorem overlooks_text {name : String} : (Fields.required name .text).Overlooks [(name, Eq)] :=
  Fields.overlooks_required (overlooks_eq _)

theorem overlooks_optional {α : Type} {name : String} (decoder : Decoder α) :
    (Fields.optional name decoder).Overlooks [(name, Eq)] :=
  (overlooks_eq decoder).optional

namespace ComponentRef

def Alike : Leeway := Document.Alike [("name", Eq), ("namespace", Eq)]

theorem read_document (c : ComponentRef) : decoder.read c.document = .ok c := by
  have member (name : String) : c.document.get? name = _ := Document.get?_ofMembers name (by simp [Table.keys])
  refine (Decoder.record_read_object _ _).mpr (Fields.seq_read_ok (Fields.map_read_ok mk ?_) ?_)
  · exact Fields.required_read_named (member "name") rfl
  · exact Fields.required_read_named (member "namespace") rfl

theorem overlooks : decoder.Overlooks Alike :=
  overlooks_record ((overlooks_text.map mk).seq overlooks_text) _

end ComponentRef

namespace ResourceRef

def Alike : Leeway := Document.Alike [("name", Eq)]

theorem read_document (r : ResourceRef) : decoder.read r.document = .ok r := by
  have member (name : String) : r.document.get? name = _ := Document.get?_ofMembers name (by simp [Table.keys])
  refine (Decoder.record_read_object _ _).mpr (Fields.map_read_ok mk ?_)
  exact Fields.required_read_named (member "name") rfl

theorem overlooks : decoder.Overlooks Alike := overlooks_record (overlooks_text.map mk) _

end ResourceRef

namespace SnapshotTemplate

def Alike : Leeway := Document.Alike [("name", Eq), ("tag", Eq)]

theorem read_document (t : SnapshotTemplate) : decoder.read t.document = .ok t := by
  have member (name : String) : t.document.get? name = _ := Document.get?_ofMembers name (by simp [Table.keys])
  refine (Decoder.record_read_object _ _).mpr (Fields.seq_read_ok (Fields.map_read_ok mk ?_) ?_)
  · exact Fields.required_read_named (member "name") rfl
  · exact Fields.required_read_named (member "tag") rfl

theorem overlooks : decoder.Overlooks Alike :=
  overlooks_record ((overlooks_text.map mk).seq overlooks_text) _

end SnapshotTemplate

namespace ResourceSpec

def Alike : Leeway := Document.Alike [("interval", Eq), ("componentRef", ComponentRef.Alike),
  ("resource", ResourceRef.Alike), ("snapshotTemplate", SnapshotTemplate.Alike)]

theorem read_document (s : ResourceSpec) : decoder.read s.document = .ok s := by
  have member (name : String) : s.document.get? name = _ := Document.get?_ofPresent name (by simp [Table.keys])
  refine (Decoder.record_read_object _ _).mpr
    (Fields.seq_read_ok (Fields.seq_read_ok (Fields.seq_read_ok (Fields.map_read_ok mk ?_) ?_) ?_) ?_)
  · exact Fields.optional_read_named (member "interval") (fun _ _ => rfl) fun _ _ => rfl
  · exact Fields.required_read_named (member "componentRef") s.componentRef.read_document
  · exact Fields.required_read_named (member "resource") s.resource.read_document
  · exact Fields.required_read_named (member "snapshotTemplate") s.snapshotTemplate.read_document

theorem overlooks : decoder.Overlooks Alike :=
  overlooks_record (((((overlooks_optional _).map mk).seq
    (Fields.overlooks_required ComponentRef.overlooks)).seq
    (Fields.overlooks_required ResourceRef.overlooks)).seq
    (Fields.overlooks_required SnapshotTemplate.overlooks)) _

end ResourceSpec

namespace ResourceStatus

def Alike : Leeway := Document.Alike [("observedGeneration", Eq), ("lastAppliedResourceVersion", Eq)]

theorem overlooks : decoder.Overlooks Alike :=
  overlooks_record (((overlooks_optional _).map mk).seq (overlooks_optional _)) _

end ResourceStatus

namespace ResourceEntry

def Alike : Leeway := Document.Alike [("name", Eq), ("version", Eq), ("type", Eq), ("access", Eq)]

theorem read_document (e : ResourceEntry) : decoder.read e.document = .ok e := by
  have member (name : String) : e.document.get? name = _ := Document.get?_ofPresent name (by simp [Table.keys])
  refine (Decoder.record_read_object _ _).mpr
    (Fields.seq_read_ok (Fields.seq_read_ok (Fields.seq_read_ok (Fields.map_read_ok mk ?_) ?_) ?_) ?_)
  · exact Fields.required_read_named (member "name") rfl
  · exact Fields.required_read_named (member "version") rfl
  · exact Fields.optional_read_named (member "type") (fun _ _ => rfl) fun _ _ => rfl
  · exact Fields.defaulted_read_eq_ok_iff.mpr (.inr ⟨e.access, member "access", rfl⟩)

theorem overlooks : decoder.Overlooks Alike :=
  overlooks_record ((((overlooks_text.map mk).seq overlooks_text).seq (overlooks_optional _)).seq
    (Fields.overlooks_defaulted (overlooks_eq _) _)) _

end ResourceEntry

namespace ComponentDescriptorSpec

def Alike : Leeway := Document.Alike [("version", Eq), ("resources", AlikeItems ResourceEntry.Alike)]

theorem read_document (s : ComponentDescriptorSpec) : decoder.read s.document = .ok s := by
  have member (name : String) : s.document.get? name = _ := Document.get?_ofPresent name (by simp [Table.keys])
  refine (Decoder.record_read_object _ _).mpr (Fields.seq_read_ok (Fields.map_read_ok mk ?_) ?_)
  · exact Fields.optional_read_named (member "version") (fun _ _ => rfl) fun _ _ => rfl
  · refine Fields.defaulted_read_eq_ok_iff.mpr (.inr ⟨_, member "resources", ?_⟩)
    exact Decoder.list_read_map fun e _ => e.read_document

theorem overlooks : decoder.Overlooks Alike :=
  overlooks_record (((overlooks_optional _).map mk).seq
    (Fields.overlooks_defaulted ResourceEntry.overlooks.list _)) _

end ComponentDescriptorSpec

namespace SnapshotSpec

def Alike : Leeway := Document.Alike [("ref", Eq)]

theorem read_document (s : SnapshotSpec) : decoder.read s.document = .ok s := by
  have member (name : String) : s.document.get? name = _ := Document.get?_ofMembers name (by simp [Table.keys])
  refine (Decoder.record_read_object _ _).mpr (Fields.map_read_ok mk ?_)
  exact Fields.required_read_named (member "ref") rfl

theorem overlooks : decoder.Overlooks Alike := overlooks_record (overlooks_text.map mk) _

end SnapshotSpec

theorem get?_kindDocument (kind : String) (metadata : Metadata) (spec : Document) (status : Option Document)
    (name : String) : (kindDocument kind metadata spec status).get? name = (Table.get? name [
      ("apiVersion", some (.string apiVersion)), ("kind", some (.string kind)),
      ("metadata", some metadata.document), ("spec", some spec), ("status", status)]).bind id :=
  Document.get?_ofPresent name (by simp [Table.keys])

namespace Resource

def Alike : Leeway :=
  Document.Alike [("metadata", Eq), ("spec", ResourceSpec.Alike), ("status", ResourceStatus.Alike)]

/-- A resource is read back up to what the metadata is read back as. -/
theorem read_document {r : Resource} {m : Metadata} (metadata : Metadata.decoder.read r.metadata.document = .ok m) :
    decoder.read r.document = .ok { r with metadata := m } := by
  have member := get?_kindDocument kind r.metadata r.spec.document (r.status.map ResourceStatus.document)
  refine (Decoder.record_read_object _ _).mpr
    (Fields.seq_read_ok (Fields.seq_read_ok (Fields.map_read_ok mk ?_) ?_) ?_)
  · exact Fields.required_read_named (member "metadata") metadata
  · exact Fields.required_read_named (member "spec") r.spec.read_document
  · exact Fields.nullable_read_named (member "status") (fun _ _ => rfl)
      fun s _ => s.decoder_read_document

theorem read_object_iff {r : Resource} {ms : List (String × Document)} :
    decoder.read (.object ms) = .ok r ↔
      (∃ d, Table.get? "metadata" ms = some d ∧ Metadata.decoder.read d = .ok r.metadata) ∧
      (∃ d, Table.get? "spec" ms = some d ∧ ResourceSpec.decoder.read d = .ok r.spec) ∧
      ((Table.get? "status" ms = none ∧ none = r.status) ∨
        ∃ d, Table.get? "status" ms = some d ∧ ResourceStatus.decoder.orNull.read d = .ok r.status) := by
  simp only [decoder, Decoder.record_read_object, Fields.seq_read_eq_ok_iff, Fields.map_read_eq_ok_iff,
    Fields.required_read_eq_ok_iff, Fields.nullable_read_eq_ok_iff]
  constructor
  · rintro ⟨_, ⟨_, ⟨metadata, first, rfl⟩, spec, second, rfl⟩, status, third, rfl⟩
    exact ⟨first, second, third⟩
  · rintro ⟨first, second, third⟩
    exact ⟨_, ⟨_, ⟨_, first, rfl⟩, _, second, rfl⟩, _, third, rfl⟩

theorem overlooks : decoder.Overlooks Alike :=
  overlooks_record ((((Fields.overlooks_required (overlooks_eq _)).map mk).seq
    (Fields.overlooks_required ResourceSpec.overlooks)).seq ResourceStatus.overlooks.nullable) _

end Resource

namespace ComponentDescriptor

def Alike : Leeway := Document.Alike [("metadata", Eq), ("spec", ComponentDescriptorSpec.Alike)]

theorem read_document {c : ComponentDescriptor} {m : Metadata}
    (metadata : Metadata.decoder.read c.metadata.document = .ok m) :
    decoder.read c.document = .ok { c with metadata := m } := by
  have member := get?_kindDocument kind c.metadata c.spec.document none
  refine (Decoder.record_read_object _ _).mpr (Fields.seq_read_ok (Fields.map_read_ok mk ?_) ?_)
  · exact Fields.required_read_named (member "metadata") metadata
  · exact Fields.required_read_named (member "spec") c.spec.read_document

theorem overlooks : decoder.Overlooks Alike :=
  overlooks_record (((Fields.overlooks_required (overlooks_eq _)).map mk).seq
    (Fields.overlooks_required ComponentDescriptorSpec.overlooks)) _

end ComponentDescriptor

namespace Snapshot

def Alike : Leeway := Document.Alike [("metadata", Eq), ("spec", SnapshotSpec.Alike)]

theorem read_document {p : Snapshot} {m : Metadata}
    (metadata : Metadata.decoder.read p.metadata.document = .ok m) :
    decoder.read p.document = .ok { p with metadata := m } := by
  have member := get?_kindDocument kind p.metadata p.spec.document none
  refine (Decoder.record_read_object _ _).mpr (Fields.seq_read_ok (Fields.map_read_ok mk ?_) ?_)
  · exact Fields.required_read_named (member "metadata") metadata
  · exact Fields.required_read_named (member "spec") p.spec.read_document

theorem read_object_iff {p : Snapshot} {ms : List (String × Document)} :
    decoder.read (.object ms) = .ok p ↔
      (∃ d, Table.get? "metadata" ms = some d ∧ Metadata.decoder.read d = .ok p.metadata) ∧
      ∃ d, Table.get? "spec" ms = some d ∧ SnapshotSpec.decoder.read d = .ok p.spec := by
  simp only [decoder, Decoder.record_read_object, Fields.seq_read_eq_ok_iff, Fields.map_read_eq_ok_iff,
    Fields.required_read_eq_ok_iff]
  constructor
  · rintro ⟨_, ⟨metadata, first, rfl⟩, spec, second, rfl⟩
    exact ⟨first, second⟩
  · rintro ⟨first, second⟩
    exact ⟨_, ⟨_, first, rfl⟩, _, second, rfl⟩

theorem overlooks : decoder.Overlooks Alike :=
  overlooks_record (((Fields.overlooks_required (overlooks_eq _)).map mk).seq
    (Fields.overlooks_required SnapshotSpec.overlooks)) _

end Snapshot

/-- How documents carry the values of a kind, given what metadata comes to. -/
structure ClusterObject.Carried (α : Type) [ClusterObject α] (alike : Leeway) : Prop where
  /-- A value is read back from its document. -/
  back : ∀ a : α, Metadata.decoder.read (metadata a).document = .ok (metadata a) →
    decoder.read (document a) = .ok a
  /-- A document that is read as a value can be written otherwise. -/
  overlooks : ∀ (a : α) (d d' : Document), alike d d' → decoder.read d = .ok a → decoder.read d' = .ok a
  /-- A value that was read is written in the same way, however often it is read and written. -/
  again : ∀ (a : α) (m : Metadata) (d : Document), decoder.read d = .ok a →
    Metadata.decoder.read (metadata a).document = .ok m → m.document = (metadata a).document →
    ∃ a' : α, decoder.read (document a) = .ok a' ∧ document a' = document a

open ClusterObject (Carried)

theorem Resource.carried : Carried Resource Alike where
  back _ metadata := read_document metadata
  overlooks _ _ _ alike read := Resource.overlooks.read alike read
  again r m _ _ metadata same := by
    refine ⟨_, read_document metadata, ?_⟩
    change kindDocument .. = kindDocument ..
    simp only [kindDocument, same]
    rfl

theorem ComponentDescriptor.carried : Carried ComponentDescriptor Alike where
  back _ metadata := read_document metadata
  overlooks _ _ _ alike read := ComponentDescriptor.overlooks.read alike read
  again c m _ _ metadata same := by
    refine ⟨_, read_document metadata, ?_⟩
    change kindDocument .. = kindDocument ..
    simp only [kindDocument, same]
    rfl

theorem Snapshot.carried : Carried Snapshot Alike where
  back _ metadata := read_document metadata
  overlooks _ _ _ alike read := Snapshot.overlooks.read alike read
  again p m _ _ metadata same := by
    refine ⟨_, read_document metadata, ?_⟩
    change kindDocument .. = kindDocument ..
    simp only [kindDocument, same]
    rfl

/-- The three kinds are carried by documents. A document of a kind may say anything of its kind and its version,
and anything under names that a record of it does not know, down to the entries of a descriptor. -/
theorem kinds_carried : Carried Resource Resource.Alike ∧
    Carried ComponentDescriptor ComponentDescriptor.Alike ∧ Carried Snapshot Snapshot.Alike :=
  ⟨Resource.carried, ComponentDescriptor.carried, Snapshot.carried⟩

namespace Example

def labelled : Resource where
  metadata := { name := some "web", «namespace» := some "shop", labels := some [("app", "web"), ("tier", "1")] }
  spec :=
    { interval := none
      componentRef := ⟨"acme.org/app", "catalog"⟩
      resource := ⟨"chart"⟩
      snapshotTemplate := ⟨"web", "stable"⟩ }
  status := some {}

theorem labelled_kept : labelled.metadata.Kept where
  creation := nofun
  deletion := nofun
  labels table held := by
    cases held
    simp only [Table.Ordered, List.pairwise_cons, List.mem_singleton, forall_eq]
    exact ⟨by decide, by simp, .nil⟩
  annotations := nofun
  managed := nofun

def branchedRef : Document :=
  .object (Table.put "branch" (.string "main") labelled.spec.componentRef.document.members)

def branchedSpec : Document :=
  .object (Table.put "componentRef" branchedRef labelled.spec.document.members)

def relabelled : Document :=
  .object (Table.erase "kind" (Table.put "apiVersion" (.nat 2)
    (Table.put "spec" branchedSpec labelled.document.members)))

end Example

open Example in
theorem labelled_carried : Resource.decoder.read labelled.document = .ok labelled ∧
    Resource.decoder.read relabelled = .ok labelled ∧
    ∃ r : Resource, Resource.decoder.read labelled.document = .ok r ∧ r.document = labelled.document := by
  obtain ⟨⟨back, overlooks, again⟩, -, -⟩ := kinds_carried
  have kept := Metadata.read_document labelled_kept
  have whole := back labelled kept
  have ref : ComponentRef.Alike labelled.spec.componentRef.document branchedRef :=
    Document.alike_put "branch" _ (by simp) (by simp)
  have spec : ResourceSpec.Alike labelled.spec.document branchedSpec := by
    refine Document.alike_put_known ?_ (by simp [Table.keys]) (.tail _ (.head _))
      (Document.get?_ofPresent "componentRef" (by simp [Table.keys])) ref
    simp [ComponentRef.Alike, ResourceRef.Alike, SnapshotTemplate.Alike, Document.Alike.same]
  have reflexive : ∀ part ∈ [("metadata", Eq), ("spec", ResourceSpec.Alike), ("status", ResourceStatus.Alike)],
      ∀ d, part.2 d d := by
    simp [ResourceSpec.Alike, ResourceStatus.Alike, Document.Alike.same]
  have branched := overlooks _ _ _ (Document.alike_put_known reflexive (by simp [Table.keys]) (.tail _ (.head _))
    (get?_kindDocument _ _ _ _ "spec") spec) whole
  have versioned := overlooks _ _ _ (Document.alike_put "apiVersion" (.nat 2) reflexive (by simp)) branched
  have unkinded := overlooks _ _ _ (Document.alike_erase "kind" reflexive (by simp)) versioned
  exact ⟨whole, unkinded, again labelled _ _ whole kept rfl⟩

end Stowage
