import Mathlib.Data.List.Forall2
import Stowage.Proofs.Decoding

/-! What is made of a record depends on the members that it knows. Others may stand beside them, also in a
record within the record. -/
namespace Stowage

namespace Document

/-- How two parts of a document may differ. -/
abbrev Leeway := Document → Document → Prop

/-- Two writings of a record: the same document, or objects in which the known members are there alike, each
with its own leeway. Of other members nothing is said. -/
inductive Alike (known : List (String × Leeway)) : Leeway
  | same (d : Document) : Alike known d d
  | object {ms ms' : List (String × Document)}
      (members : ∀ part ∈ known, Option.Rel part.2 (Table.get? part.1 ms) (Table.get? part.1 ms')) :
    Alike known (.object ms) (.object ms')

inductive AlikeItems (leeway : Leeway) : Leeway
  | same (d : Document) : AlikeItems leeway d d
  | array {ds ds' : List Document} (items : List.Forall₂ leeway ds ds') :
    AlikeItems leeway (.array ds) (.array ds')

section

variable {known : List (String × Leeway)} {name : String} {d : Document} {ms : List (String × Document)}

theorem optionRel_of_eq {leeway : Leeway} (reflexive : ∀ d, leeway d d) {a b : Option Document}
    (same : a = b) : Option.Rel leeway a b := by
  subst same
  cases a with
  | none => exact .none
  | some d => exact .some (reflexive d)

/-- A member of another name is added, or put in place of what was there. -/
theorem alike_put (name : String) (d : Document) (reflexive : ∀ part ∈ known, ∀ d, part.2 d d)
    (unknown : ∀ part ∈ known, part.1 ≠ name) :
    Alike known (.object ms) (.object (Table.put name d ms)) := by
  refine .object fun part member => optionRel_of_eq (reflexive part member) ?_
  rw [Table.get?_put_other (unknown part member)]

theorem alike_erase (name : String) (reflexive : ∀ part ∈ known, ∀ d, part.2 d d)
    (unknown : ∀ part ∈ known, part.1 ≠ name) :
    Alike known (.object ms) (.object (Table.erase name ms)) := by
  refine .object fun part member => optionRel_of_eq (reflexive part member) ?_
  rw [Table.get?_erase, if_neg (unknown part member)]

/-- A known member is put in place of one that it is alike. -/
theorem alike_put_known {leeway : Leeway} {d' : Document} (reflexive : ∀ part ∈ known, ∀ d, part.2 d d)
    (distinct : (Table.keys known).Nodup) (knows : (name, leeway) ∈ known)
    (found : Table.get? name ms = some d) (alike : leeway d d') :
    Alike known (.object ms) (.object (Table.put name d' ms)) := by
  refine .object fun part member => ?_
  obtain ⟨other, leeway'⟩ := part
  by_cases same : other = name
  · subst same
    have one : some leeway' = some leeway :=
      (Table.get?_of_mem distinct member).symm.trans (Table.get?_of_mem distinct knows)
    cases one
    rw [Table.get?_put_same, found]
    exact .some alike
  · rw [Table.get?_put_other same]
    exact optionRel_of_eq (reflexive _ member) rfl

end

end Document

open Document (Alike AlikeItems Leeway)

variable {α β : Type}

/-- What a decoder overlooks: of two such documents, the second is read as what the first is. -/
structure Decoder.Overlooks (decoder : Decoder α) (leeway : Leeway) : Prop where
  null : ∀ {d d'}, leeway d d' → d'.isNull = d.isNull
  read : ∀ {d d' a}, leeway d d' → decoder.read d = .ok a → decoder.read d' = .ok a

namespace Fields

variable {name : String} {decoder : Decoder α} {ms : List (String × Document)} {parts : Parts}

theorem map_read_eq_ok_iff {f : α → β} {fs : Fields α} {b : β} :
    (f <$> fs).read parts = .ok b ↔ ∃ a, fs.read parts = .ok a ∧ f a = b := by
  simp only [Functor.map, Except.map]
  cases fs.read parts <;> simp

theorem seq_read_eq_ok_iff {ff : Fields (α → β)} {fs : Fields α} {b : β} :
    (ff <*> fs).read parts = .ok b ↔
      ∃ f, ff.read parts = .ok f ∧ ∃ a, fs.read parts = .ok a ∧ f a = b := by
  simp only [Seq.seq]
  cases ff.read parts <;> cases fs.read parts <;> simp

/-- A field that is absent is what its absence means, and another is what is read of it. -/
theorem field_read_eq_ok_iff {absence : Absence} {absent : Parts → Except Misfit α} {a : α} :
    (field name decoder absence absent).read (.named ms) = .ok a ↔
      (Table.get? name ms = none ∧ absent (.named ms) = .ok a) ∨
        ∃ d, Table.get? name ms = some d ∧ decoder.read d = .ok a := by
  rw [← Parts.locate_map_snd name ms 0]
  simp only [field, Parts.find?]
  cases Parts.locate name ms 0 with
  | none => cases absent (.named ms) <;> simp [Except.mapError]
  | some part => cases h : decoder.read part.2 <;> simp [Except.mapError, h]

theorem required_read_eq_ok_iff {a : α} :
    (required name decoder).read (.named ms) = .ok a ↔
      ∃ d, Table.get? name ms = some d ∧ decoder.read d = .ok a := by
  rw [required, field_read_eq_ok_iff]
  simp

theorem required_read_named {d : Document} {a : α} (found : Table.get? name ms = some d)
    (read : decoder.read d = .ok a) : (required name decoder).read (.named ms) = .ok a :=
  required_read_eq_ok_iff.mpr ⟨d, found, read⟩

theorem defaulted_read_eq_ok_iff {value a : α} :
    (defaulted name decoder value).read (.named ms) = .ok a ↔
      (Table.get? name ms = none ∧ value = a) ∨
        ∃ d, Table.get? name ms = some d ∧ decoder.read d = .ok a := by
  rw [defaulted, field_read_eq_ok_iff]
  simp

theorem nullable_read_eq_ok_iff {a : Option α} :
    (nullable name decoder).read (.named ms) = .ok a ↔
      (Table.get? name ms = none ∧ none = a) ∨
        ∃ d, Table.get? name ms = some d ∧ decoder.orNull.read d = .ok a := by
  rw [nullable, field_read_eq_ok_iff]
  simp

theorem nullable_read_named {a : Option α} {write : α → Document}
    (found : Table.get? name ms = a.map write) (proper : ∀ x ∈ a, (write x).isNull = false)
    (back : ∀ x ∈ a, decoder.read (write x) = .ok x) :
    (nullable name decoder).read (.named ms) = .ok a := by
  rw [nullable_read_eq_ok_iff]
  cases a with
  | none => exact .inl ⟨found, rfl⟩
  | some x =>
    refine .inr ⟨write x, found, ?_⟩
    rw [Decoder.orNull_read decoder (proper x rfl), back x rfl]
    rfl

structure Overlooks (fs : Fields α) (known : List (String × Leeway)) : Prop where
  read : ∀ {ms ms' a},
    (∀ part ∈ known, Option.Rel part.2 (Table.get? part.1 ms) (Table.get? part.1 ms')) →
    fs.read (.named ms) = .ok a → fs.read (.named ms') = .ok a

theorem Overlooks.map {fs : Fields α} {known : List (String × Leeway)} (h : fs.Overlooks known) (f : α → β) :
    (f <$> fs).Overlooks known := by
  refine ⟨fun members read => ?_⟩
  rw [map_read_eq_ok_iff] at read ⊢
  obtain ⟨a, read, made⟩ := read
  exact ⟨a, h.read members read, made⟩

theorem Overlooks.seq {ff : Fields (α → β)} {fs : Fields α} {known known' : List (String × Leeway)}
    (h : ff.Overlooks known) (h' : fs.Overlooks known') : (ff <*> fs).Overlooks (known ++ known') := by
  refine ⟨fun members read => ?_⟩
  rw [seq_read_eq_ok_iff] at read ⊢
  obtain ⟨f, first, a, second, made⟩ := read
  obtain ⟨members, members'⟩ := List.forall_mem_append.mp members
  exact ⟨f, h.read members first, a, h'.read members' second, made⟩

/-- One field overlooks what its decoder does. -/
theorem overlooks_field {leeway : Leeway} (h : decoder.Overlooks leeway) (absence : Absence)
    {absent : Parts → Except Misfit α}
    (still : ∀ ms ms', absent (.named ms) = absent (.named ms')) :
    (field name decoder absence absent).Overlooks [(name, leeway)] := by
  refine ⟨fun {ms ms' a} members read => ?_⟩
  have alike := members _ (.head _)
  rw [field_read_eq_ok_iff] at read ⊢
  rcases read with ⟨missing, default⟩ | ⟨d, found, read⟩
  · rw [missing] at alike
    generalize there : Table.get? name ms' = found at alike
    cases alike
    exact .inl ⟨rfl, still ms ms' ▸ default⟩
  · rw [found] at alike
    generalize there : Table.get? name ms' = found' at alike
    cases alike with
    | some alike => exact .inr ⟨_, rfl, h.read alike read⟩

theorem overlooks_required {leeway : Leeway} (h : decoder.Overlooks leeway) :
    (required name decoder).Overlooks [(name, leeway)] :=
  overlooks_field h _ fun _ _ => rfl

theorem overlooks_defaulted {leeway : Leeway} (h : decoder.Overlooks leeway) (value : α) :
    (defaulted name decoder value).Overlooks [(name, leeway)] :=
  overlooks_field h _ fun _ _ => rfl

end Fields

namespace Decoder

theorem overlooks_eq (decoder : Decoder α) : decoder.Overlooks (· = ·) where
  null same := by rw [same]
  read same read := same ▸ read

variable {decoder : Decoder α}

theorem Overlooks.orNull {leeway : Leeway} (h : decoder.Overlooks leeway) :
    decoder.orNull.Overlooks leeway where
  null := h.null
  read {d d' a} alike read := by
    cases null : d.isNull with
    | true =>
      rw [Document.eq_null_of_isNull null] at read
      rwa [Document.eq_null_of_isNull ((h.null alike).trans null)]
    | false =>
      obtain ⟨value, inner, rfl⟩ := orNull_read_ok null read
      rw [orNull_read decoder ((h.null alike).trans null), h.read alike inner]
      rfl

theorem Overlooks.nullable {leeway : Leeway} {name : String} (h : decoder.Overlooks leeway) :
    (Fields.nullable name decoder).Overlooks [(name, leeway)] :=
  Fields.overlooks_field h.orNull _ fun _ _ => rfl

theorem Overlooks.optional {leeway : Leeway} {name : String} (h : decoder.Overlooks leeway) :
    (Fields.optional name decoder).Overlooks [(name, leeway)] :=
  Fields.overlooks_defaulted h.orNull none

theorem mapM_read_eq_ok_iff {ds : List Document} {as : List α} :
    ds.mapM decoder.read = .ok as ↔ List.Forall₂ (fun d a => decoder.read d = .ok a) ds as := by
  induction ds generalizing as with
  | nil => cases as <;> simp [pure, Except.pure]
  | cons d ds ih =>
    rw [List.mapM_cons]
    cases head : decoder.read d with
    | error misfit => cases as <;> simp [bind, Except.bind, head]
    | ok a =>
      cases tail : ds.mapM decoder.read <;> cases as <;>
        simp [bind, Except.bind, pure, Except.pure, head, ← ih, tail]

theorem list_read_eq_ok_iff {ds : List Document} {as : List α} :
    (list decoder).read (.array ds) = .ok as ↔
      List.Forall₂ (fun d a => decoder.read d = .ok a) ds as := mapM_read_eq_ok_iff

/-- A list is read back from what is written for its items. -/
theorem list_read_map {write : α → Document} {as : List α}
    (back : ∀ a ∈ as, decoder.read (write a) = .ok a) :
    (list decoder).read (.array (as.map write)) = .ok as := by
  rw [list_read_eq_ok_iff, List.forall₂_map_left_iff, List.forall₂_same]
  exact back

theorem Overlooks.list {leeway : Leeway} (h : decoder.Overlooks leeway) :
    (list decoder).Overlooks (AlikeItems leeway) where
  null alike := by cases alike <;> rfl
  read {d d' as} alike read := by
    cases alike with
    | same => exact read
    | array items =>
      rw [list_read_eq_ok_iff] at read ⊢
      induction items generalizing as with
      | nil => exact read
      | cons first _ ih =>
        cases read with
        | cons head tail => exact .cons (h.read first head) (ih tail)

theorem members_read_object (expected : String) (fs : Fields α) {ms : List (String × Document)} {a : α} :
    (members expected fs).read (.object ms) = .ok a ↔ fs.read (.named ms) = .ok a := by
  change (fs.read (.named ms)).mapError Defect.misfit = .ok a ↔ _
  cases fs.read (.named ms) <;> simp [Except.mapError]

/-- Members are read of an object only. -/
theorem members_read_ok {expected : String} {fs : Fields α} {d : Document} {a : α}
    (read : (members expected fs).read d = .ok a) : ∃ ms, d = .object ms := by
  cases d with
  | object ms => exact ⟨ms, rfl⟩
  | _ => cases read

theorem record_read_object (expected : String) (fs : Fields α) {ms : List (String × Document)} {a : α} :
    (record expected fs).read (.object ms) = .ok a ↔ fs.read (.named ms) = .ok a :=
  members_read_object expected fs

/-- A record overlooks the members that are not its own. -/
theorem overlooks_record {fs : Fields α} {known : List (String × Leeway)}
    (h : fs.Overlooks known) (expected : String) : (record expected fs).Overlooks (Alike known) where
  null alike := by cases alike <;> rfl
  read alike read := by
    cases alike with
    | same => exact read
    | object members =>
      rw [record_read_object] at read ⊢
      exact h.read members read

end Decoder
end Stowage
