import Stowage.Document.Patch
import Stowage.Proofs.Table

/-! Merge patches between objects, member by member: what the patch holds under a key, and what is there
after it is merged. -/
namespace Stowage.Document

def memberChange (base : Option Document) (target : Document) : Option Document :=
  match base with
  | none => some target
  | some b =>
    if b == target then none
    else if b.isObject && target.isObject then changes b target
    else some target

/-- The patch to one member, which takes away what the target lacks. -/
def memberPatch (base target : Option Document) : Option Document :=
  match target with
  | some t => memberChange base t
  | none => base.map fun _ => null

def memberMerge (base patch : Option Document) : Option Document :=
  match patch with
  | none => base
  | some p => if p.isNull then none else some ((base.getD null).merge p)

section Changes

variable (bs : List (String × Document))

theorem memberChanges_cons (k : String) (t : Document) (ts : List (String × Document)) :
    memberChanges bs ((k, t) :: ts) =
      (((memberChange (Table.get? k bs) t).map fun p => (k, p)).toList ++ memberChanges bs ts) := by
  rw [memberChanges]
  cases Table.get? k bs with
  | none => rfl
  | some b =>
    simp only [memberChange]
    split
    · rfl
    · split
      · cases changes b t <;> rfl
      · rfl

theorem keys_memberChanges (ts : List (String × Document)) :
    (Table.keys (memberChanges bs ts)).Sublist (Table.keys ts) := by
  induction ts with
  | nil => simp [memberChanges, Table.keys]
  | cons t ts ih =>
    obtain ⟨k, t⟩ := t
    rw [memberChanges_cons]
    cases memberChange (Table.get? k bs) t with
    | none => exact ih.cons k
    | some p => exact ih.cons_cons k

theorem get?_memberChanges (key : String) {ts : List (String × Document)}
    (distinct : (Table.keys ts).Nodup) :
    Table.get? key (memberChanges bs ts) =
      (Table.get? key ts).bind (memberChange (Table.get? key bs)) := by
  induction ts with
  | nil => simp [memberChanges]
  | cons t ts ih =>
    obtain ⟨k, t⟩ := t
    obtain ⟨absent, distinct⟩ := List.nodup_cons.mp distinct
    rw [memberChanges_cons, Table.get?_append, ih distinct, Table.get?_cons]
    by_cases same : k = key
    · subst same
      rw [Table.get?_eq_none_iff.mpr absent]
      cases change : memberChange (Table.get? k bs) t <;> simp [Table.get?, change]
    · cases memberChange (Table.get? k bs) t <;> simp [Table.get?, same]

/-- The members that a target lacks, to be taken away. -/
def goneMembers (ts : List (String × Document)) : List (String × Document) :=
  bs.filterMap fun (k, _) => if (Table.get? k ts).isNone then some (k, null) else none

theorem goneMembers_cons (k : String) (b : Document) (ts : List (String × Document)) :
    goneMembers ((k, b) :: bs) ts =
      (if (Table.get? k ts).isNone then [(k, null)] else []) ++ goneMembers bs ts := by
  cases found : Table.get? k ts <;> simp [goneMembers, found]

theorem keys_goneMembers (ts : List (String × Document)) :
    (Table.keys (goneMembers bs ts)).Sublist (Table.keys bs) := by
  induction bs with
  | nil => simp [goneMembers, Table.keys]
  | cons b bs ih =>
    obtain ⟨k, b⟩ := b
    rw [goneMembers_cons]
    split
    · exact ih.cons_cons k
    · exact ih.cons k

theorem get?_goneMembers (key : String) (ts : List (String × Document)) :
    Table.get? key (goneMembers bs ts) =
      if (Table.get? key ts).isNone then (Table.get? key bs).map fun _ => null else none := by
  induction bs with
  | nil => simp [goneMembers]
  | cons b bs ih =>
    obtain ⟨k, b⟩ := b
    rw [goneMembers_cons, Table.get?_append, ih, Table.get?_cons]
    by_cases same : k = key
    · subst same
      cases Table.get? k ts <;> simp [Table.get?]
    · cases Table.get? k ts <;> simp [Table.get?, same]

end Changes

section Objects

variable {bs ts : List (String × Document)}

theorem changes_object : changes (object bs) (object ts) =
    match Table.ofList (memberChanges bs ts ++ goneMembers bs ts) with
    | [] => none
    | ms => some (object ms) := by
  rw [changes]; rfl

theorem patch_members {patch : Document} (h : changes (object bs) (object ts) = some patch) :
    patch = object (Table.ofList (memberChanges bs ts ++ goneMembers bs ts)) := by
  rw [changes_object] at h
  split at h
  · cases h
  · exact (Option.some.inj h).symm

theorem get?_changes (bd : (Table.keys bs).Nodup) (td : (Table.keys ts).Nodup) (key : String) :
    Table.get? key (Table.ofList (memberChanges bs ts ++ goneMembers bs ts)) =
      memberPatch (Table.get? key bs) (Table.get? key ts) := by
  have distinct : (Table.keys (memberChanges bs ts ++ goneMembers bs ts)).Nodup := by
    rw [Table.keys, List.map_append]
    refine List.nodup_append.mpr
      ⟨(keys_memberChanges bs ts).nodup td, (keys_goneMembers bs ts).nodup bd, ?_⟩
    rintro k changed _ gone rfl
    have removed : Table.get? k (goneMembers bs ts) ≠ none := fun none =>
      Table.get?_eq_none_iff.mp none gone
    have there : Table.get? k ts ≠ none := fun none =>
      Table.get?_eq_none_iff.mp none ((keys_memberChanges bs ts).subset changed)
    exact removed (by simp [get?_goneMembers, there])
  rw [Table.get?_ofList_of_nodup key distinct, Table.get?_append, get?_memberChanges bs key td,
    get?_goneMembers]
  cases Table.get? key ts with
  | none => simp [memberPatch]
  | some t => simp [memberPatch]

/-- There is nothing to change exactly when no member changes. -/
theorem changes_eq_none (bd : (Table.keys bs).Nodup) (td : (Table.keys ts).Nodup) :
    changes (object bs) (object ts) = none ↔
      ∀ key, memberPatch (Table.get? key bs) (Table.get? key ts) = none := by
  rw [changes_object]
  constructor
  · intro h key
    rw [← get?_changes bd td]
    split at h
    next empty => rw [empty]; rfl
    next => cases h
  · intro h
    have empty : Table.ofList (memberChanges bs ts ++ goneMembers bs ts) = [] := by
      apply Table.eq_nil_of_get?
      intro key
      rw [get?_changes bd td, h key]
    rw [empty]

/-- Merging a patch changes the members one by one. -/
theorem get?_mergeMembers (key : String) {table ps : List (String × Document)}
    (distinct : (Table.keys ps).Nodup) : Table.get? key (mergeMembers table ps) =
      memberMerge (Table.get? key table) (Table.get? key ps) := by
  induction ps generalizing table with
  | nil => simp [mergeMembers, memberMerge]
  | cons p ps ih =>
    obtain ⟨k, p⟩ := p
    obtain ⟨absent, distinct⟩ := List.nodup_cons.mp distinct
    rw [mergeMembers, ih distinct, Table.get?_cons]
    by_cases same : k = key
    · subst same
      rw [Table.get?_eq_none_iff.mpr absent]
      cases null : p.isNull <;> simp [memberMerge, null, Table.get?_erase]
    · rw [if_neg same]
      cases p.isNull <;> simp [Table.get?_put, Table.get?_erase, Ne.symm same]

/-- Merging the changes between two objects goes member by member, also into another document than the first. -/
theorem merge_changes {patch : Document} (bd : (Table.keys bs).Nodup) (td : (Table.keys ts).Nodup)
    (h : changes (object bs) (object ts) = some patch) (d : Document) :
    ∃ ms, d.merge patch = object ms ∧ ∀ key, Table.get? key ms =
      memberMerge (d.get? key) (memberPatch (Table.get? key bs) (Table.get? key ts)) := by
  obtain rfl := patch_members h
  refine ⟨mergeMembers d.members (Table.ofList (memberChanges bs ts ++ goneMembers bs ts)), ?_, ?_⟩
  · rw [merge]
  · intro key
    rw [get?_mergeMembers key (Table.ordered_ofList _).nodup, get?_changes bd td]
    rfl

end Objects

/-- A patch that is no object replaces what is there. -/
theorem merge_of_scalar (d : Document) {p : Document} (scalar : p.isObject = false) : d.merge p = p := by
  cases p with
  | object ms => cases scalar
  | _ => simp [merge]

section Scalars

variable {α : Type} (write : α → Document)
  (plain : ∀ x, (write x).isNull = false ∧ (write x).isObject = false)

include plain

/-- The change to a member that is never null or an object leads to what it is in the target, whatever was
there. -/
theorem memberMerge_of_memberPatch {base target : Option α} {p : Document}
    (change : memberPatch (base.map write) (target.map write) = some p) (there : Option Document) :
    memberMerge there (some p) = target.map write := by
  cases target with
  | none =>
    cases base with
    | none => cases change
    | some x => cases change; rfl
  | some y =>
    obtain ⟨proper, scalar⟩ := plain y
    have made : write y = p := by
      cases base with
      | none => exact Option.some.inj change
      | some x =>
        simp only [Option.map_some, memberPatch, memberChange, scalar, Bool.and_false] at change
        by_cases same : (write x == write y) = true
        · rw [if_pos same] at change
          cases change
        · rw [if_neg same] at change
          exact Option.some.inj change
    rw [← made, memberMerge, proper, merge_of_scalar _ scalar]
    rfl

variable (lawful : ∀ x y, write x == write y ↔ x = y)

include lawful

theorem memberPatch_eq_none (base target : Option α) :
    memberPatch (base.map write) (target.map write) = none ↔ base = target := by
  cases target with
  | none => cases base <;> simp [memberPatch]
  | some y =>
    cases base with
    | none => simp [memberPatch, memberChange]
    | some x => simp [memberPatch, memberChange, lawful, plain]

theorem memberMerge_memberPatch (base target : Option α) :
    memberMerge (base.map write) (memberPatch (base.map write) (target.map write)) =
      target.map write := by
  cases change : memberPatch (base.map write) (target.map write) with
  | none => rw [(memberPatch_eq_none write plain lawful base target).mp change]; rfl
  | some p => exact memberMerge_of_memberPatch write plain change _

end Scalars
end Stowage.Document
