import Stowage.Proofs.Sorted

/-! Merge patches one after the other. Two can be merged in either order exactly if they do not want different things
of one place, and a patch that is merged a second time finds nothing left to change. -/
namespace Stowage

namespace Document

/-- Patches that want nothing different of one place: both are the same, or both go into the members, and the same
holds of each member that both name. -/
inductive Compatible : Document → Document → Prop
  | same {p q : Document} (agree : (p == q) = true) : Compatible p q
  | members {ps qs : List (String × Document)}
    (within : ∀ name p q, Table.get? name ps = some p → Table.get? name qs = some q → Compatible p q) :
    Compatible (object ps) (object qs)

theorem Compatible.isNull {p q : Document} (compatible : Compatible p q) : p.isNull = q.isNull := by
  cases compatible with
  | same agree => exact isNull_of_beq agree
  | members => rfl

theorem compatible_of_not_objects {p q : Document} (scalar : p.isObject = false ∨ q.isObject = false) :
    Compatible p q ↔ (p == q) = true := by
  refine ⟨fun compatible => ?_, .same⟩
  cases compatible with
  | same agree => exact agree
  | members => rcases scalar with scalar | scalar <;> cases scalar

theorem compatible_objects {ps qs : List (String × Document)} : Compatible (object ps) (object qs) ↔
    ∀ name p q, Table.get? name ps = some p → Table.get? name qs = some q → Compatible p q := by
  refine ⟨fun compatible name p q found found' => ?_, .members⟩
  cases compatible with
  | same agree =>
    have member := get?_of_agreesMembers agree name
    rw [found, found'] at member
    exact .same member
  | members within => exact within name p q found found'

/-- Objects in order agree exactly if what is found under each name does. -/
theorem beq_iff_get? {a b : Document} (sorted : a.isSorted = true) (sorted' : b.isSorted = true)
    (isObject : a.isObject = true) (isObject' : b.isObject = true) :
    (a == b) = true ↔ ∀ name, (a.get? name == b.get? name) = true := by
  obtain ⟨as, rfl⟩ := exists_of_isObject isObject
  obtain ⟨bs, rfl⟩ := exists_of_isObject isObject'
  exact object_beq_iff (ordered_members sorted) (ordered_members sorted')

theorem eq_of_get? {a b : Document} (sorted : a.isSorted = true) (sorted' : b.isSorted = true)
    (isObject : a.isObject = true) (isObject' : b.isObject = true) (found : ∀ name, a.get? name = b.get? name) :
    a = b := by
  obtain ⟨as, rfl⟩ := exists_of_isObject isObject
  obtain ⟨bs, rfl⟩ := exists_of_isObject isObject'
  exact congrArg object (Table.Ordered.ext (ordered_members sorted) (ordered_members sorted') found)

theorem isObject_merge (d p : Document) : (d.merge p).isObject = p.isObject := by
  cases p <;> simp [merge, isObject]

/-- Merging a patch that goes into the members changes them one by one. -/
theorem get?_merge {ps : List (String × Document)} (ordered : Table.Ordered ps) (d : Document) (name : String) :
    (d.merge (object ps)).get? name = memberMerge (d.get? name) (Table.get? name ps) := by
  rw [merge]
  exact get?_mergeMembers name ordered.nodup

@[simp] theorem memberMerge_none (base : Option Document) : memberMerge base none = base := rfl

@[simp] theorem memberMerge_null (base : Option Document) : memberMerge base (some null) = none := rfl

theorem memberMerge_proper (base : Option Document) {p : Document} (proper : p.isNull = false) :
    memberMerge base (some p) = some ((base.getD null).merge p) := by
  rw [memberMerge, proper]
  rfl

theorem isSorted_getD {base : Option Document} (sorted : ∀ b ∈ base, b.isSorted = true) :
    (base.getD null).isSorted = true := by
  cases base with
  | none => rfl
  | some b => exact sorted b rfl

/-! Either order -/

/-- Two patches to one member can be merged in either order exactly if they are compatible, where that holds within. -/
theorem memberMerge_comm_iff {base : Option Document} (sorted : ∀ b ∈ base, b.isSorted = true) {p q : Document}
    (within : ∀ d : Document, d.isSorted = true →
      (((d.merge p).merge q == (d.merge q).merge p) = true ↔ Compatible p q)) :
    (memberMerge (memberMerge base (some p)) (some q) ==
      memberMerge (memberMerge base (some q)) (some p)) = true ↔ Compatible p q := by
  cases proper : p.isNull with
  | true =>
    cases proper' : q.isNull with
    | true =>
      rw [eq_null_of_isNull proper, eq_null_of_isNull proper']
      exact iff_of_true rfl (.same rfl)
    | false =>
      -- One takes away what the other sets, and the last one has its way.
      obtain rfl := eq_null_of_isNull proper
      rw [memberMerge_null, memberMerge_null, memberMerge_proper _ proper']
      refine iff_of_false nofun fun compatible => ?_
      cases compatible.isNull.trans proper'
  | false =>
    cases proper' : q.isNull with
    | true =>
      obtain rfl := eq_null_of_isNull proper'
      rw [memberMerge_null, memberMerge_null, memberMerge_proper _ proper]
      refine iff_of_false nofun fun compatible => ?_
      cases compatible.isNull.symm.trans proper
    | false =>
      simp only [memberMerge_proper _ proper, memberMerge_proper _ proper', Option.getD_some,
        Option.some_beq_some]
      exact within _ (isSorted_getD sorted)

/-- Two patches can be merged in either order exactly if they are compatible, whatever they are merged into. -/
theorem merge_comm_iff {x p q : Document} (sorted : x.isSorted = true) (patchSorted : p.isSorted = true)
    (patchSorted' : q.isSorted = true) :
    ((x.merge p).merge q == (x.merge q).merge p) = true ↔ Compatible p q := by
  induction p using induction_members generalizing x q with
  | step p ih =>
    rcases objects_or_not p q with scalar | ⟨ps, qs, rfl, rfl⟩
    · rw [compatible_of_not_objects scalar]
      by_cases kind : p.isObject = q.isObject
      · have scalars : p.isObject = false ∧ q.isObject = false := by
          rw [kind, or_self] at scalar
          exact ⟨kind.trans scalar, scalar⟩
        simp only [merge_of_scalar _ scalars.1, merge_of_scalar _ scalars.2, beq_comm q]
      · refine iff_of_false (fun same => kind ?_) fun same => kind (isObject_of_beq same)
        have last := isObject_of_beq same
        rw [isObject_merge, isObject_merge] at last
        exact last.symm
    · have ordered : Table.Ordered ps := ordered_members patchSorted
      have ordered' : Table.Ordered qs := ordered_members patchSorted'
      rw [compatible_objects, beq_iff_get? (isSorted_merge (isSorted_merge sorted patchSorted) patchSorted')
        (isSorted_merge (isSorted_merge sorted patchSorted') patchSorted)
        (isObject_merge _ _) (isObject_merge _ _)]
      refine forall_congr' fun name => ?_
      rw [get?_merge ordered', get?_merge ordered, get?_merge ordered, get?_merge ordered']
      cases found : Table.get? name ps with
      | none => simp
      | some p =>
        cases found' : Table.get? name qs with
        | none => simp
        | some q =>
          have within (d : Document) (sorted : d.isSorted = true) :=
            ih name p found sorted (isSorted_get? patchSorted found) (isSorted_get? patchSorted' found')
          simpa using memberMerge_comm_iff (fun b there => isSorted_get? sorted there) within

/-! Once more -/

/-- A member that has been merged stays as it is when it is merged again, if that holds within. -/
theorem memberMerge_again {base p : Option Document} (sorted : ∀ b ∈ base, b.isSorted = true)
    (within : ∀ p' ∈ p, ∀ d : Document, d.isSorted = true → (d.merge p').merge p' = d.merge p') :
    memberMerge (memberMerge base p) p = memberMerge base p := by
  cases p with
  | none => rfl
  | some p =>
    cases proper : p.isNull with
    | true => rw [eq_null_of_isNull proper, memberMerge_null, memberMerge_null]
    | false =>
      rw [memberMerge_proper _ proper, memberMerge_proper _ proper, Option.getD_some]
      exact congrArg some (within p rfl _ (isSorted_getD sorted))

/-- What a patch was merged into is not changed by merging it again. -/
theorem merge_again {x p : Document} (sorted : x.isSorted = true) (patchSorted : p.isSorted = true) :
    (x.merge p).merge p = x.merge p := by
  induction p using induction_members generalizing x with
  | step p ih =>
    cases object : p.isObject with
    | false => rw [merge_of_scalar _ object, merge_of_scalar _ object]
    | true =>
      obtain ⟨ps, rfl⟩ := exists_of_isObject object
      have ordered : Table.Ordered ps := ordered_members patchSorted
      have once := isSorted_merge sorted patchSorted
      refine eq_of_get? (isSorted_merge once patchSorted) once (isObject_merge _ _) (isObject_merge _ _)
        fun name => ?_
      rw [get?_merge ordered, get?_merge ordered]
      refine memberMerge_again (fun b there => isSorted_get? sorted there) fun p found d sorted => ?_
      exact ih name p found sorted (isSorted_get? patchSorted found)

/-- Whatever they are merged into, two patches can be merged in either order exactly if they are compatible; and one
that is merged a second time changes nothing. -/
theorem merged_either_way_iff {x p : Document} (sorted : x.isSorted = true) (patchSorted : p.isSorted = true) :
    (∀ q : Document, q.isSorted = true →
      (((x.merge p).merge q == (x.merge q).merge p) = true ↔ Compatible p q)) ∧
    (x.merge p).merge p = x.merge p :=
  ⟨fun _ patchSorted' => merge_comm_iff sorted patchSorted patchSorted', merge_again sorted patchSorted⟩

end Document

namespace Example
open Document

def resized : Document :=
  object [("gone", null), ("load", number (.floating false 0)),
    ("spec", object [("size", nat 2), ("zone", object [("rack", null)])])]

/-- Agrees with `resized` on the members that both name, but for the sign of zero. -/
def renewed : Document :=
  object [("gone", null), ("held", object [("by", string "hand")]), ("load", number (.floating true 0)),
    ("spec", object [("size", nat 2), ("state", null)])]

def cleared : Document := object [("spec", null)]

theorem compatible_renewed : Compatible resized renewed := by
  refine .members fun name p q found found' => ?_
  have member := Table.mem_of_get? found
  simp only [List.mem_cons, Prod.mk.injEq, List.not_mem_nil, or_false] at member
  rcases member with ⟨rfl, rfl⟩ | ⟨rfl, rfl⟩ | ⟨rfl, rfl⟩
  · cases found'
    exact .same rfl
  · cases found'
    exact .same rfl
  · cases found'
    refine .members fun name p q found found' => ?_
    have member := Table.mem_of_get? found
    simp only [List.mem_cons, Prod.mk.injEq, List.not_mem_nil, or_false] at member
    rcases member with ⟨rfl, rfl⟩ | ⟨rfl, rfl⟩
    · cases found'
      exact .same rfl
    · cases found'

end Example

namespace Document

open Example in
/-- Two patches of one object, which are compatible, and a third that is not. -/
theorem merged_either_way_of_an_object :
    (before.isSorted = true ∧ resized.isSorted = true ∧ renewed.isSorted = true ∧ cleared.isSorted = true) ∧
    (Compatible resized renewed ∧ ((before.merge resized).merge renewed == (before.merge renewed).merge resized) = true) ∧
    ¬ Compatible resized cleared ∧ (before.merge resized).merge resized = before.merge resized := by
  have sorted : resized.isSorted = true ∧ renewed.isSorted = true ∧ cleared.isSorted = true := by decide +kernel
  obtain ⟨either, again⟩ := merged_either_way_iff before_isSorted sorted.1
  have merged := (either renewed sorted.2.1).mpr compatible_renewed
  have apart : ((before.merge resized).merge cleared == (before.merge cleared).merge resized) = false := by
    decide +kernel
  refine ⟨⟨before_isSorted, sorted⟩, ⟨compatible_renewed, merged⟩, fun compatible => ?_, again⟩
  rw [(either cleared sorted.2.2).mpr compatible] at apart
  cases apart

end Document
end Stowage
