import Stowage.Document.Decoding
import Stowage.Proofs.Table

/-! Records read back from what is written for them: under each name lies the member of that name, and an
optional field is found again or is absent. -/
namespace Stowage

namespace Document

theorem exists_of_isObject {d : Document} (object : d.isObject = true) : ∃ ms, d = .object ms := by
  cases d with
  | object ms => exact ⟨ms, rfl⟩
  | _ => cases object

theorem eq_null_of_isNull {d : Document} (null : d.isNull = true) : d = .null := by
  cases d with
  | null => rfl
  | _ => cases null

theorem get?_ofMembers (key : String) {ms : List (String × Document)}
    (distinct : (Table.keys ms).Nodup) : (ofMembers ms).get? key = Table.get? key ms :=
  Table.get?_ofList_of_nodup key distinct

theorem keys_filterMap (ms : List (String × Option Document)) :
    (Table.keys (ms.filterMap fun (name, d) => d.map (name, ·))).Sublist (Table.keys ms) := by
  induction ms with
  | nil => simp [Table.keys]
  | cons m ms ih =>
    obtain ⟨name, d⟩ := m
    cases d with
    | none => exact ih.cons name
    | some d => exact ih.cons_cons name

/-- Under a name lies the member of that name, if it is there. -/
theorem get?_ofPresent (key : String) {ms : List (String × Option Document)}
    (distinct : (Table.keys ms).Nodup) :
    (ofPresent ms).get? key = (Table.get? key ms).bind id := by
  rw [ofPresent, get?_ofMembers key ((keys_filterMap ms).nodup distinct)]
  induction ms with
  | nil => rfl
  | cons m ms ih =>
    obtain ⟨name, d⟩ := m
    obtain ⟨absent, later⟩ := List.nodup_cons.mp distinct
    rw [Table.get?_cons]
    split
    next same =>
      subst same
      cases d with
      | none => rw [List.filterMap_cons_none rfl, ih later, Table.get?_eq_none_iff.mpr absent]; rfl
      | some d => simp [Table.get?]
    next apart =>
      cases d with
      | none => exact ih later
      | some d => simpa [Table.get?, apart] using ih later

theorem keys_ofPresent_nodup (ms : List (String × Option Document)) :
    (Table.keys (ofPresent ms).members).Nodup := (Table.ordered_ofList _).nodup

end Document

namespace Decoder

theorem int64_read_document (n : Int64) : int64.read (.int64 n) = .ok n := by
  have low := n.minValue_le_toInt
  have high := n.toInt_lt
  have size : UInt64.size / 2 = 2 ^ 63 := by decide
  simp only [int64, scalar, Document.int64]
  cases h : n.toInt with
  | ofNat k =>
    rw [h, Int.ofNat_eq_natCast] at high
    have small : k < UInt64.size / 2 := by omega
    have back : Int64.ofNat k = n := by
      rw [← Int64.ofInt_toInt n, h, Int.ofNat_eq_natCast, Int64.ofInt_eq_ofNat]
    simp [Numeral.ofInt, small, back]
  | negSucc k =>
    have small : k < UInt64.size / 2 := by
      rw [h, Int64.toInt_minValue] at low
      omega
    have back : Int64.ofInt (.negSucc k) = n := by rw [← h, Int64.ofInt_toInt]
    simp [Numeral.ofInt, small, back]

theorem text_read_string (s : String) : text.read (.string s) = .ok s := rfl

theorem orNull_read {α : Type} (decoder : Decoder α) {d : Document} (proper : d.isNull = false) :
    decoder.orNull.read d = some <$> decoder.read d := by
  cases d with
  | null => cases proper
  | _ => rfl

/-- What is read where null might stand, but does not, is what is read of the document. -/
theorem orNull_read_ok {α : Type} {decoder : Decoder α} {d : Document} {found : Option α}
    (proper : d.isNull = false) (read : decoder.orNull.read d = .ok found) :
    ∃ a, decoder.read d = .ok a ∧ some a = found := by
  rw [orNull_read decoder proper] at read
  cases inner : decoder.read d with
  | error misfit => rw [inner] at read; cases read
  | ok a => rw [inner] at read; exact ⟨a, rfl, Except.ok.inj read⟩

end Decoder

namespace Parts

theorem locate_map_snd (name : String) (ms : List (String × Document)) (index : Nat) :
    (locate name ms index).map (·.2) = Table.get? name ms := by
  induction ms generalizing index with
  | nil => rfl
  | cons m ms ih =>
    obtain ⟨k, d⟩ := m
    by_cases same : k = name <;> simp [locate, Table.get?, same, ih]

end Parts

namespace Fields

variable {α β : Type}

theorem map_read_ok (f : α → β) {fs : Fields α} {parts : Parts} {a : α}
    (ha : fs.read parts = .ok a) : (f <$> fs).read parts = .ok (f a) := by
  simp only [Functor.map, ha, Except.map]

theorem seq_read_ok {ff : Fields (α → β)} {fs : Fields α} {parts : Parts} {f : α → β} {a : α}
    (hf : ff.read parts = .ok f) (ha : fs.read parts = .ok a) :
    (ff <*> fs).read parts = .ok (f a) := by
  simp only [Seq.seq, hf, ha]

/-- An optional field is read back from what is written for it, and from nothing if there is none. -/
theorem optional_read_named {name : String} {decoder : Decoder α} {ms : List (String × Document)}
    {a : Option α} {write : α → Document} (found : Table.get? name ms = a.map write)
    (proper : ∀ x ∈ a, (write x).isNull = false) (back : ∀ x ∈ a, decoder.read (write x) = .ok x) :
    (optional name decoder).read (.named ms) = .ok a := by
  rw [← Parts.locate_map_snd name ms 0] at found
  cases located : Parts.locate name ms 0 with
  | none =>
    have absent : a = none := by simpa [located] using found.symm
    simp [optional, defaulted, field, Parts.find?, located, absent]
    rfl
  | some part =>
    obtain ⟨x, rfl, written⟩ : ∃ x, a = some x ∧ write x = part.2 := by
      simpa [located] using found.symm
    have read : decoder.orNull.read part.2 = .ok (some x) := by
      rw [← written, Decoder.orNull_read decoder (proper x rfl), back x rfl]
      rfl
    simp [optional, defaulted, field, Parts.find?, located, read]
    rfl

end Fields

end Stowage
