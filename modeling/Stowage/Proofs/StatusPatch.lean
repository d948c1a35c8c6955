import Stowage.Proofs.Decoding
import Stowage.Proofs.MergePatch
import Stowage.Store.Memory

/-! Status patches. A status is read back as it is written; the patch between two statuses leads from the
one to the other, and there is none exactly when they are the same. -/
namespace Stowage

namespace Document

theorem beq_int64_iff (a b : Int64) : int64 a == int64 b ↔ a = b := by
  have numerals : ∀ m n : Int, (Numeral.ofInt m).agrees (Numeral.ofInt n) = true ↔ m = n := by
    rintro (m | m) (n | n) <;>
      simp only [Numeral.ofInt, Numeral.agrees, decide_eq_true_eq, Bool.false_eq_true,
        Int.ofNat.injEq, Int.negSucc.injEq, reduceCtorEq]
  rw [← Int64.toInt_inj]
  exact numerals a.toInt b.toInt

theorem beq_string_iff (a b : String) : string a == string b ↔ a = b := by
  simp [BEq.beq, agrees]

end Document

attribute [ext] ResourceStatus

namespace ResourceStatus

theorem get?_generation (s : ResourceStatus) :
    s.document.get? "observedGeneration" = s.observedGeneration.map .int64 := by
  rw [document, Document.get?_ofPresent _ (by simp [Table.keys])]
  rfl

theorem get?_version (s : ResourceStatus) :
    s.document.get? "lastAppliedResourceVersion" = s.lastAppliedVersion.map .string := by
  rw [document, Document.get?_ofPresent _ (by simp [Table.keys])]
  rfl

/-- What is read of a status depends only on the two members. -/
theorem decoder_read {s : ResourceStatus} {ms : List (String × Document)}
    (generation : Table.get? "observedGeneration" ms = s.document.get? "observedGeneration")
    (version : Table.get? "lastAppliedResourceVersion" ms =
      s.document.get? "lastAppliedResourceVersion") :
    decoder.read (.object ms) = .ok s := by
  rw [get?_generation] at generation
  rw [get?_version] at version
  have fields := Fields.seq_read_ok
    (Fields.map_read_ok mk (Fields.optional_read_named generation (fun _ _ => rfl)
      fun n _ => Decoder.int64_read_document n))
    (Fields.optional_read_named version (fun _ _ => rfl) fun v _ => Decoder.text_read_string v)
  simp only [decoder, Decoder.record, Decoder.members, fields]
  rfl

/-- A status is read back as it is written. -/
theorem decoder_read_document (s : ResourceStatus) : decoder.read s.document = .ok s :=
  decoder_read rfl rfl

theorem keys_document_nodup (s : ResourceStatus) : (Table.keys s.document.members).Nodup :=
  Document.keys_ofPresent_nodup _

theorem get?_document_other (s : ResourceStatus) {key : String}
    (generation : key ≠ "observedGeneration") (version : key ≠ "lastAppliedResourceVersion") :
    s.document.get? key = none := by
  rw [document, Document.get?_ofPresent _ (by simp [Table.keys]), Table.get?_cons,
    if_neg generation.symm, Table.get?_cons, if_neg version.symm, Table.get?_nil]
  rfl

/-- The patch between two statuses leads from the one to the other. -/
theorem patchedStatus_eq {before after : ResourceStatus} {patch : Document} {r : Resource}
    (changed : before.patch? after = some patch) (loaded : r.status.getD {} = before) :
    MemoryStore.patchedStatus r patch = .ok after := by
  obtain ⟨changes, differ, rfl⟩ := Option.map_eq_some_iff.mp changed
  obtain ⟨ms, merged, member⟩ :=
    Document.merge_changes before.keys_document_nodup after.keys_document_nodup differ before.document
  have whole : MemoryStore.patchedStatus r (.ofMembers [("status", changes)]) =
      decoder.read (before.document.merge changes) := by
    rw [← loaded]; rfl
  rw [whole]
  refine (congrArg decoder.read merged).trans (decoder_read ?_ ?_)
  · refine (member _).trans ?_
    have generation := Document.memberMerge_memberPatch .int64 (fun _ => ⟨rfl, rfl⟩)
      Document.beq_int64_iff before.observedGeneration after.observedGeneration
    simp only [← get?_generation] at generation
    exact generation
  · refine (member _).trans ?_
    have version := Document.memberMerge_memberPatch .string (fun _ => ⟨rfl, rfl⟩)
      Document.beq_string_iff before.lastAppliedVersion after.lastAppliedVersion
    simp only [← get?_version] at version
    exact version

theorem patch?_eq_none_iff {before after : ResourceStatus} :
    before.patch? after = none ↔ before = after := by
  have members := Document.changes_eq_none before.keys_document_nodup after.keys_document_nodup
  have generation := Document.memberPatch_eq_none .int64 (fun _ => ⟨rfl, rfl⟩)
    Document.beq_int64_iff before.observedGeneration after.observedGeneration
  have version := Document.memberPatch_eq_none .string (fun _ => ⟨rfl, rfl⟩)
    Document.beq_string_iff before.lastAppliedVersion after.lastAppliedVersion
  rw [← get?_generation, ← get?_generation] at generation
  rw [← get?_version, ← get?_version] at version
  rw [patch?, Option.map_eq_none_iff]
  refine members.trans ⟨?_, ?_⟩
  · intro unchanged
    have same := generation.mp (unchanged _)
    have same' := version.mp (unchanged _)
    obtain ⟨g, v⟩ := before
    cases same; cases same'; rfl
  · rintro rfl key
    by_cases g : key = "observedGeneration"
    · subst g; exact generation.mpr rfl
    · by_cases v : key = "lastAppliedResourceVersion"
      · subst v; exact version.mpr rfl
      · have other := before.get?_document_other g v
        rw [Document.get?] at other
        rw [other]; rfl

end ResourceStatus
end Stowage
