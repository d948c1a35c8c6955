import Stowage.Proofs.Agreement
import Stowage.Proofs.Decoding
import Stowage.Proofs.MergePatch

/-! What the changes from one document to another do. Merged into the first they lead to the second, unless
that one adds a null; merged into any document they leave alone what did not change. -/
namespace Stowage

namespace Document

theorem objects_or_not (a b : Document) :
    (a.isObject = false ∨ b.isObject = false) ∨ ∃ as bs, a = object as ∧ b = object bs := by
  cases a with
  | object as =>
    cases b with
    | object bs => exact .inr ⟨as, bs, rfl, rfl⟩
    | _ => exact .inl (.inr rfl)
  | _ => exact .inl (.inl rfl)

/-- Only between two objects do the changes go into the members. -/
theorem changes_of_not_objects {base target : Document}
    (scalar : base.isObject = false ∨ target.isObject = false) :
    base.changes target = if base == target then none else some target := by
  cases target with
  | object ts =>
    cases base with
    | object bs => rcases scalar with scalar | scalar <;> cases scalar
    | _ =>
      rw [changes]
      · rfl
      · intro _ same
        cases same
  | _ =>
    rw [changes]
    intro _ same
    cases same

/-- To an object from any other document all changes. -/
theorem changes_to_object {base : Document} (scalar : base.isObject = false)
    (ts : List (String × Document)) : base.changes (object ts) = some (object ts) := by
  rw [changes_of_not_objects (.inl scalar), if_neg]
  intro same
  cases scalar.symm.trans (isObject_of_beq same)

/-- Changes are a null exactly if what they lead to is one. -/
theorem isNull_of_changes {base target patch : Document} (h : base.changes target = some patch) :
    patch.isNull = target.isNull := by
  rcases objects_or_not base target with scalar | ⟨bs, ts, rfl, rfl⟩
  · rw [changes_of_not_objects scalar] at h
    split at h
    · cases h
    · rw [Option.some.inj h]
  · rw [patch_members h]
    rfl

@[simp] theorem memberPatch_none (target : Option Document) : memberPatch none target = target := by
  cases target <;> rfl

theorem memberPatch_some (b t : Document) :
    memberPatch (some b) (some t) = if b == t then none else b.changes t := by
  simp only [memberPatch, memberChange]
  split
  next => rfl
  next differ =>
    split
    next => rfl
    next scalar =>
      have scalar : b.isObject = false ∨ t.isObject = false := by
        cases object : b.isObject <;> simp_all
      rw [changes_of_not_objects scalar, if_neg differ]

/-- The members are merged one by one, whatever document the changes to an object are merged into. -/
theorem get?_mergeAll_changes {base target : Document} (baseSorted : base.isSorted = true)
    (targetSorted : target.isSorted = true) (targetObject : target.isObject = true) (d : Document)
    (key : String) :
    (d.mergeAll (base.changes target)).get? key =
      memberMerge (d.get? key) (memberPatch (base.get? key) (target.get? key)) := by
  obtain ⟨ts, rfl⟩ := exists_of_isObject targetObject
  have targetKeys : (Table.keys ts).Nodup := (ordered_members targetSorted).nodup
  cases baseObject : base.isObject with
  | false =>
    rw [get?_of_not_object baseObject, memberPatch_none, changes_to_object baseObject, mergeAll, merge]
    exact get?_mergeMembers key targetKeys
  | true =>
    obtain ⟨bs, rfl⟩ := exists_of_isObject baseObject
    have baseKeys : (Table.keys bs).Nodup := (ordered_members baseSorted).nodup
    cases change : changes (object bs) (object ts) with
    | none =>
      have unchanged : memberPatch (get? key (object bs)) (get? key (object ts)) = none :=
        (changes_eq_none baseKeys targetKeys).mp change key
      rw [unchanged]
      rfl
    | some patch =>
      obtain ⟨ms, merged, member⟩ := merge_changes baseKeys targetKeys change d
      rw [mergeAll, merged]
      exact member key

/-- Whether there are changes to a member, if that is known of what is within. -/
theorem memberPatch_eq_none_iff {base target : Option Document}
    (within : ∀ t ∈ target, ∀ b ∈ base, b.changes t = none ↔ (b == t) = true) :
    memberPatch base target = none ↔ (base == target) = true := by
  cases target with
  | none => cases base <;> simp [memberPatch]
  | some t =>
    cases base with
    | none => simp
    | some b =>
      rw [memberPatch_some, Option.some_beq_some]
      split
      next same => simp [same]
      next => exact within t rfl b rfl

/-- There are no changes exactly between documents that agree. -/
theorem changes_eq_none_iff {base target : Document} (baseSorted : base.isSorted = true)
    (targetSorted : target.isSorted = true) :
    base.changes target = none ↔ (base == target) = true := by
  induction target using induction_members generalizing base with
  | step target ih =>
    rcases objects_or_not base target with scalar | ⟨bs, ts, rfl, rfl⟩
    · rw [changes_of_not_objects scalar]
      split <;> simp_all
    · have ordered : Table.Ordered bs := ordered_members baseSorted
      have ordered' : Table.Ordered ts := ordered_members targetSorted
      rw [changes_eq_none ordered.nodup ordered'.nodup, object_beq_iff ordered ordered']
      refine forall_congr' fun key => memberPatch_eq_none_iff fun t found b found' => ?_
      exact ih key t found (isSorted_get? baseSorted found') (isSorted_get? targetSorted found)

/-- The patch to a member that is on both sides is its changes. -/
theorem memberPatch_eq_changes {b t : Document} (baseSorted : b.isSorted = true)
    (targetSorted : t.isSorted = true) : memberPatch (some b) (some t) = b.changes t := by
  rw [memberPatch_some]
  split
  next same => exact ((changes_eq_none_iff baseSorted targetSorted).mpr same).symm
  next => rfl

/-! What is reached -/

theorem ordered_mergeMembers {table ps : List (String × Document)} (ordered : Table.Ordered table) :
    Table.Ordered (mergeMembers table ps) := by
  induction ps generalizing table with
  | nil => exact ordered
  | cons p ps ih =>
    obtain ⟨k, p⟩ := p
    rw [mergeMembers]
    apply ih
    split
    · exact ordered.erase k
    · exact ordered.put k _

/-- The changes to an object lead from any document in order to an object in order. -/
theorem mergeAll_changes_object {base target : Document} (baseSorted : base.isSorted = true)
    (targetObject : target.isObject = true) :
    ∃ ms, base.mergeAll (base.changes target) = object ms ∧ Table.Ordered ms := by
  obtain ⟨ts, rfl⟩ := exists_of_isObject targetObject
  cases baseObject : base.isObject with
  | false =>
    rw [changes_to_object baseObject, mergeAll, merge]
    exact ⟨_, rfl, ordered_mergeMembers (ordered_members baseSorted)⟩
  | true =>
    obtain ⟨bs, rfl⟩ := exists_of_isObject baseObject
    cases change : changes (object bs) (object ts) with
    | none => exact ⟨bs, rfl, ordered_members baseSorted⟩
    | some patch =>
      rw [patch_members change, mergeAll, merge]
      exact ⟨_, rfl, ordered_mergeMembers (ordered_members baseSorted)⟩

/-- Each null that is found in the second along a path is found in the first along it. -/
def NullsKept (base target : Option Document) : Prop :=
  ∀ path, target.bind (at? path) = some null → base.bind (at? path) = some null

theorem nullsKept_none (base : Option Document) : NullsKept base none := by
  intro path there
  cases there

/-- A null is kept where there was one. -/
theorem nullsKept_null_iff {base : Option Document} : NullsKept base (some null) ↔ base = some null := by
  constructor
  · intro kept
    have found := kept [] rfl
    cases base with
    | none => cases found
    | some b => exact found
  · rintro rfl path there
    exact there

/-- What is no null has its nulls kept if its members have. -/
theorem nullsKept_some_iff {base : Option Document} {t : Document} (proper : t.isNull = false) :
    NullsKept base (some t) ↔ ∀ name, NullsKept ((base.getD null).get? name) (t.get? name) := by
  have within (path : List String) (name : String) :
      base.bind (at? (name :: path)) = ((base.getD null).get? name).bind (at? path) := by
    cases base <;> rfl
  constructor
  · intro kept name path there
    rw [← within]
    exact kept (name :: path) there
  · intro kept path there
    cases path with
    | nil =>
      cases there
      cases proper
    | cons name path =>
      rw [within]
      exact kept name path there

/-- A member that the target has is merged as a document is, from a null where there was none. -/
theorem memberMerge_memberPatch_some {base : Option Document} {t : Document}
    (baseSorted : ∀ b ∈ base, b.isSorted = true) (targetSorted : t.isSorted = true)
    (proper : t.isNull = false) :
    memberMerge base (memberPatch base (some t)) =
      some ((base.getD null).mergeAll ((base.getD null).changes t)) := by
  cases base with
  | none =>
    have differ : (null == t) = false := by
      cases same : null == t with
      | false => rfl
      | true =>
        rw [eq_null_of_beq same] at proper
        cases proper
    rw [Option.getD_none, changes_of_not_objects (.inl rfl), differ, memberPatch_none, memberMerge, proper]
    rfl
  | some b =>
    rw [memberPatch_eq_changes (baseSorted b rfl) targetSorted, Option.getD_some]
    cases change : b.changes t with
    | none => rfl
    | some patch =>
      rw [memberMerge, isNull_of_changes change, proper]
      rfl

/-- A null is never set. -/
theorem memberMerge_null_iff {base : Option Document} :
    (memberMerge base (memberPatch base (some null)) == some null) = true ↔ base = some null := by
  cases base with
  | none => exact iff_of_false nofun nofun
  | some b =>
    rw [memberPatch_some]
    split
    next same =>
      rw [beq_comm] at same
      rw [eq_null_of_beq same]
      exact iff_of_true rfl rfl
    next differ =>
      rw [changes_of_not_objects (.inr rfl), if_neg differ]
      refine iff_of_false nofun fun same => differ ?_
      rw [Option.some.inj same, beq_self]

/-- Merging the patch to a member reaches the target exactly if its nulls are kept, where that holds within. -/
theorem memberMerge_beq_iff {base target : Option Document} (baseSorted : ∀ b ∈ base, b.isSorted = true)
    (targetSorted : ∀ t ∈ target, t.isSorted = true)
    (within : ∀ t ∈ target, ∀ b : Document, b.isSorted = true →
      ((b.mergeAll (b.changes t) == t) = true ↔ ∀ name, NullsKept (b.get? name) (t.get? name))) :
    (memberMerge base (memberPatch base target) == target) = true ↔ NullsKept base target := by
  cases target with
  | none =>
    have gone : memberMerge base (memberPatch base none) = none := by cases base <;> rfl
    rw [gone]
    exact iff_of_true rfl (nullsKept_none base)
  | some t =>
    cases proper : t.isNull with
    | true => rw [eq_null_of_isNull proper, nullsKept_null_iff, memberMerge_null_iff]
    | false =>
      have sorted : (base.getD null).isSorted = true := by
        cases base with
        | none => rfl
        | some b => exact baseSorted b rfl
      rw [memberMerge_memberPatch_some baseSorted (targetSorted t rfl) proper, Option.some_beq_some,
        within t rfl _ sorted, nullsKept_some_iff proper]

/-- The changes reach the target exactly if they do not have to set a null. -/
theorem mergeAll_changes_beq_iff {base target : Document} (baseSorted : base.isSorted = true)
    (targetSorted : target.isSorted = true) :
    (base.mergeAll (base.changes target) == target) = true ↔
      ∀ name, NullsKept (base.get? name) (target.get? name) := by
  induction target using induction_members generalizing base with
  | step target ih =>
    cases targetObject : target.isObject with
    | false =>
      have reached : (base.mergeAll (base.changes target) == target) = true := by
        rw [changes_of_not_objects (.inr targetObject)]
        split
        next same => exact same
        next => rw [mergeAll, merge_of_scalar _ targetObject, beq_self]
      refine iff_of_true reached fun name => ?_
      rw [get?_of_not_object targetObject]
      exact nullsKept_none _
    | true =>
      obtain ⟨ms, merged, ordered⟩ := mergeAll_changes_object baseSorted targetObject
      have member := get?_mergeAll_changes baseSorted targetSorted targetObject base
      obtain ⟨ts, rfl⟩ := exists_of_isObject targetObject
      have ordered' : Table.Ordered ts := ordered_members targetSorted
      rw [merged] at member ⊢
      rw [object_beq_iff ordered ordered']
      refine forall_congr' fun name => ?_
      rw [show Table.get? name ms = _ from member name]
      refine memberMerge_beq_iff (fun b found => isSorted_get? baseSorted found)
        (fun t found => isSorted_get? targetSorted found) fun t found b sorted => ?_
      exact ih name t found sorted (isSorted_get? targetSorted found)

/-- The changes reach the target exactly if each null along a path through its objects is there along the same path
before, and there are none exactly if nothing changes. -/
theorem reaches_target_iff {base target : Document} (baseSorted : base.isSorted = true)
    (targetSorted : target.isSorted = true) :
    ((base.mergeAll (base.changes target) == target) = true ↔
      ∀ name path, target.at? (name :: path) = some null → base.at? (name :: path) = some null) ∧
    (base.changes target = none ↔ (target == base) = true) := by
  constructor
  · exact mergeAll_changes_beq_iff baseSorted targetSorted
  · rw [changes_eq_none_iff baseSorted targetSorted, beq_comm]

end Document

namespace Example
open Document

def before : Document :=
  object [("gone", nat 1), ("held", null), ("spec", object [("size", nat 1), ("state", bool true)])]

def after : Document := object [("held", null), ("spec", object [("size", nat 2), ("state", bool true)])]

def emptied : Document := object [("held", null), ("spec", object [("size", null), ("state", bool true)])]

theorem before_isSorted : before.isSorted = true := by decide +kernel

theorem after_isSorted : after.isSorted = true := by decide +kernel

theorem emptied_isSorted : emptied.isSorted = true := by decide +kernel

end Example

namespace Document

open Example in
/-- A null that was there stays, and the changes reach the target; a new one they do not reach. -/
theorem reaches_target_with_an_old_null :
    (before.isSorted = true ∧ after.isSorted = true ∧ emptied.isSorted = true) ∧
    (before.mergeAll (before.changes after) == after) = true ∧
    (∀ name path, after.at? (name :: path) = some null → before.at? (name :: path) = some null) ∧
    (before.mergeAll (before.changes emptied) == emptied) = false ∧ before.changes after ≠ none := by
  have reached : (before.mergeAll (before.changes after) == after) = true := by decide +kernel
  have keeps := reaches_target_iff before_isSorted after_isSorted
  have adds := reaches_target_iff before_isSorted emptied_isSorted
  refine ⟨⟨before_isSorted, after_isSorted, emptied_isSorted⟩, reached, keeps.1.mp reached, ?_, ?_⟩
  · rw [← Bool.not_eq_true]
    intro reached
    cases adds.1.mp reached "spec" ["size"] rfl
  · intro none
    cases keeps.2.mp none

/-! What is left alone -/

/-- All proper parts of a path lead to objects. -/
def Enters (path : List String) (d : Document) : Prop :=
  ∀ before name after, path = before ++ name :: after → ∃ ms, d.at? before = some (object ms)

theorem enters_nil (d : Document) : Enters [] d := by
  intro before name after split
  simp at split

/-- A path enters an object, and what is left of it then enters the member of its first name. -/
theorem enters_cons_iff {name : String} {path : List String} {d : Document} :
    Enters (name :: path) d ↔
      d.isObject = true ∧ (path ≠ [] → ∃ m, d.get? name = some m ∧ Enters path m) := by
  constructor
  · intro enters
    refine ⟨?_, fun longer => ?_⟩
    · obtain ⟨ms, whole⟩ := enters [] name path rfl
      cases whole
      rfl
    · obtain ⟨second, path, rfl⟩ := List.exists_cons_of_ne_nil longer
      obtain ⟨_, first⟩ := enters [name] second path rfl
      rw [at?_single] at first
      refine ⟨_, first, fun before next after split => ?_⟩
      obtain ⟨ms, later⟩ := enters (name :: before) next after (by rw [split]; rfl)
      rw [at?_cons, first] at later
      exact ⟨ms, later⟩
  · rintro ⟨object, further⟩ before next after split
    cases before with
    | nil =>
      obtain ⟨ms, rfl⟩ := exists_of_isObject object
      exact ⟨ms, rfl⟩
    | cons first before =>
      obtain ⟨rfl, rfl⟩ := List.cons.inj split
      obtain ⟨m, found, enters⟩ := further (by simp)
      rw [at?_cons, found]
      exact enters before next after rfl

/-- Where nothing changes along a path, nothing is changed along it in any document. -/
theorem at?_mergeAll_changes {base target : Document} (baseSorted : base.isSorted = true)
    (targetSorted : target.isSorted = true) {path : List String} (enters : base.Enters path)
    (enters' : target.Enters path) (same : (base.at? path == target.at? path) = true) (d : Document) :
    (d.mergeAll (base.changes target)).at? path = d.at? path := by
  induction path generalizing base target d with
  | nil =>
    rw [(changes_eq_none_iff baseSorted targetSorted).mpr same]
    rfl
  | cons first path ih =>
    obtain ⟨-, further⟩ := enters_cons_iff.mp enters
    obtain ⟨object, further'⟩ := enters_cons_iff.mp enters'
    have member := get?_mergeAll_changes baseSorted targetSorted object d first
    rw [at?_cons, member, at?_cons]
    cases path with
    | nil =>
      have unchanged : memberPatch (base.get? first) (target.get? first) = none := by
        refine memberPatch_eq_none_iff (fun t found b found' => ?_) |>.mpr ?_
        · exact changes_eq_none_iff (isSorted_get? baseSorted found') (isSorted_get? targetSorted found)
        · rwa [at?_single, at?_single] at same
      rw [unchanged]
      rfl
    | cons name path =>
      obtain ⟨b, found, enters⟩ := further (List.cons_ne_nil name path)
      obtain ⟨t, found', enters'⟩ := further' (List.cons_ne_nil name path)
      have sorted := isSorted_get? baseSorted found
      have sorted' := isSorted_get? targetSorted found'
      rw [at?_cons, at?_cons, found, found'] at same
      rw [found, found', memberPatch_eq_changes sorted sorted']
      -- What is found further on in a member is found in a null in its place if it is missing: nothing.
      have there : ((d.get? first).getD null).at? (name :: path) =
          (d.get? first).bind (at? (name :: path)) := by
        cases d.get? first <;> rfl
      cases change : b.changes t with
      | none => rfl
      | some patch =>
        have proper : patch.isNull = false := by
          rw [isNull_of_changes change]
          obtain ⟨ts, rfl⟩ := exists_of_isObject (enters_cons_iff.mp enters').1
          rfl
        have further := ih sorted sorted' enters enters' same ((d.get? first).getD null)
        rw [change, there] at further
        rw [memberMerge, proper]
        exact further

open Example in
/-- The size changes, and the state stays what somebody else has made of it. -/
theorem at?_mergeAll_changes_of_another :
    (before.isSorted = true ∧ after.isSorted = true) ∧
    (before.Enters ["spec", "state"] ∧ after.Enters ["spec", "state"]) ∧
    (before.at? ["spec", "state"] == after.at? ["spec", "state"]) = true ∧
    let other := object [("spec", object [("state", bool false)])]
    (other.mergeAll (before.changes after)).at? ["spec", "size"] = some (nat 2) ∧
    (other.mergeAll (before.changes after)).at? ["spec", "state"] = some (bool false) := by
  have enters : before.Enters ["spec", "state"] ∧ after.Enters ["spec", "state"] := by
    simp [before, after, enters_cons_iff, enters_nil, isObject, get?, members, Table.get?]
  refine ⟨⟨before_isSorted, after_isSorted⟩, enters, rfl, rfl, ?_⟩
  exact at?_mergeAll_changes before_isSorted after_isSorted enters.1 enters.2 rfl _

end Document
end Stowage
