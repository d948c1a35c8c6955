import Stowage.Document.Basic
import Stowage.Proofs.Table

/-! Documents as values. Where the members of each object are in the order of their names, two objects agree
exactly if they have agreeing members under the same names. Members are found along paths of names. -/
namespace Stowage

namespace Table

variable {κ : Type u} {α : Type v} [DecidableEq κ] [LT κ] [Std.Irrefl (α := κ) (· < ·)]

/-- A key that is less than the first is not there. -/
theorem Ordered.get?_of_lt [Trans (α := κ) (· < ·) (· < ·) (· < ·)] {key k : κ} {value : α} {rest : List (κ × α)}
    (ordered : Ordered ((k, value) :: rest)) (less : key < k) :
    get? key ((k, value) :: rest) = none := by
  rw [get?_eq_none_iff]
  intro member
  rcases List.mem_cons.mp member with same | later
  · rw [same] at less
    exact Std.lt_irrefl less
  · obtain ⟨entry, there, rfl⟩ := List.mem_map.mp later
    exact Std.lt_irrefl (Std.lt_trans less ((List.pairwise_cons.mp ordered).1 entry there))

/-- The first key is not there a second time. -/
theorem Ordered.get?_rest {k : κ} {value : α} {rest : List (κ × α)}
    (ordered : Ordered ((k, value) :: rest)) : get? k rest = none :=
  get?_eq_none_iff.mpr (List.nodup_cons.mp ordered.nodup).1

/-- In order, tables in which the same is found are the same. -/
theorem Ordered.ext [Trans (α := κ) (· < ·) (· < ·) (· < ·)] {first second : List (κ × α)}
    (ordered : Ordered first) (ordered' : Ordered second)
    (same : ∀ key, get? key first = get? key second) : first = second := by
  have distinct {table : List (κ × α)} (ordered : Ordered table) : table.Nodup :=
    List.Pairwise.of_map (·.1) (fun _ _ apart same => apart (congrArg (·.1) same)) ordered.nodup
  have perm : first.Perm second := by
    refine (List.perm_ext_iff_of_nodup (distinct ordered) (distinct ordered')).mpr fun entry => ?_
    rw [← get?_eq_some_iff ordered.nodup, ← get?_eq_some_iff ordered'.nodup, same]
  refine perm.eq_of_pairwise (fun a b _ _ less greater => ?_) ordered ordered'
  exact absurd (Std.lt_trans less greater) Std.lt_irrefl

end Table

namespace Document

mutual
/-- The members of every object, at any depth, are in the order of their names, and none is there twice. -/
def isSorted : Document → Bool
  | array items => itemsSorted items
  | object ms => decide (ms.Pairwise fun a b => a.1 < b.1) && membersSorted ms
  | _ => true

def itemsSorted : List Document → Bool
  | [] => true
  | d :: ds => d.isSorted && itemsSorted ds

def membersSorted : List (String × Document) → Bool
  | [] => true
  | (_, d) :: ms => d.isSorted && membersSorted ms
end

theorem membersSorted_iff {ms : List (String × Document)} :
    membersSorted ms = true ↔ ∀ m ∈ ms, m.2.isSorted = true := by
  induction ms with
  | nil => simp [membersSorted]
  | cons m ms ih => simp [membersSorted, ih]

theorem itemsSorted_iff {ds : List Document} :
    itemsSorted ds = true ↔ ∀ d ∈ ds, d.isSorted = true := by
  induction ds with
  | nil => simp [itemsSorted]
  | cons d ds ih => simp [itemsSorted, ih]

theorem isSorted_object {ms : List (String × Document)} :
    (object ms).isSorted = true ↔ Table.Ordered ms ∧ ∀ m ∈ ms, m.2.isSorted = true := by
  simp [isSorted, membersSorted_iff, Table.Ordered]

theorem ordered_members {d : Document} (sorted : d.isSorted = true) : Table.Ordered d.members := by
  cases d with
  | object ms => exact (isSorted_object.mp sorted).1
  | _ => exact .nil

theorem isSorted_get? {name : String} {d m : Document} (sorted : d.isSorted = true)
    (found : d.get? name = some m) : m.isSorted = true := by
  cases d with
  | object ms => exact (isSorted_object.mp sorted).2 _ (Table.mem_of_get? found)
  | _ => cases found

theorem get?_of_not_object {d : Document} (scalar : d.isObject = false) (name : String) :
    d.get? name = none := by
  cases d with
  | object ms => cases scalar
  | _ => rfl

theorem sizeOf_get? {name : String} {d m : Document} (found : d.get? name = some m) :
    sizeOf m < sizeOf d := by
  cases d with
  | object ms =>
    have within : sizeOf (name, m) < sizeOf ms := List.sizeOf_lt_of_mem (Table.mem_of_get? found)
    rw [Prod.mk.sizeOf_spec] at within
    rw [object.sizeOf_spec]
    omega
  | _ => cases found

/-- What holds of a document if it holds of its members holds of every document. -/
theorem induction_members {motive : Document → Prop}
    (step : ∀ d, (∀ name m, d.get? name = some m → motive m) → motive d) (d : Document) : motive d :=
  step d fun _ m found =>
    have := sizeOf_get? found
    induction_members step m
termination_by sizeOf d

/-! Agreement -/

mutual
theorem agrees_comm : (a b : Document) → a.agrees b = b.agrees a
  | null, b => by cases b <;> simp [agrees]
  | bool _, b => by cases b <;> simp [agrees, eq_comm]
  | number m, b => by cases b <;> simp [agrees, m.agrees_comm]
  | string _, b => by cases b <;> simp [agrees, eq_comm]
  | array items, b => by cases b <;> simp [agrees, agreesItems_comm items]
  | object ms, b => by cases b <;> simp [agrees, agreesMembers_comm ms]

theorem agreesItems_comm : (as bs : List Document) → agreesItems as bs = agreesItems bs as
  | [], bs => by cases bs <;> simp [agreesItems]
  | a :: as, bs => by cases bs <;> simp [agreesItems, agrees_comm a, agreesItems_comm as]

theorem agreesMembers_comm :
    (as bs : List (String × Document)) → agreesMembers as bs = agreesMembers bs as
  | [], bs => by cases bs <;> simp [agreesMembers]
  | (k, a) :: as, [] => by simp [agreesMembers]
  | (k, a) :: as, (l, b) :: bs => by
    simp [agreesMembers, agrees_comm a, agreesMembers_comm as, eq_comm (a := k)]
end

theorem beq_comm (a b : Document) : (a == b) = (b == a) := agrees_comm a b

@[simp] theorem beq_self (d : Document) : (d == d) = true := agrees_refl d

instance : ReflBEq Document := ⟨beq_self _⟩

theorem eq_null_of_beq {d : Document} (same : (null == d) = true) : d = null := by
  cases d with
  | null => rfl
  | _ => cases same

theorem isObject_of_beq {a b : Document} (same : (a == b) = true) : a.isObject = b.isObject := by
  cases a <;> cases b <;> first | rfl | cases same

theorem isNull_of_beq {a b : Document} (same : (a == b) = true) : a.isNull = b.isNull := by
  cases a <;> cases b <;> first | rfl | cases same

theorem get?_of_agreesMembers {as bs : List (String × Document)} (same : agreesMembers as bs = true)
    (key : String) : (Table.get? key as == Table.get? key bs) = true := by
  induction as generalizing bs with
  | nil =>
    cases bs with
    | nil => rfl
    | cons => cases same
  | cons a as ih =>
    obtain ⟨k, a⟩ := a
    cases bs with
    | nil => cases same
    | cons b bs =>
      obtain ⟨l, b⟩ := b
      simp only [agreesMembers, Bool.and_eq_true, decide_eq_true_eq] at same
      obtain ⟨⟨rfl, head⟩, tail⟩ := same
      rw [Table.get?_cons, Table.get?_cons]
      split
      · exact head
      · exact ih tail

/-- In order, what agrees name by name agrees. -/
theorem agreesMembers_of_get? {as bs : List (String × Document)} (ordered : Table.Ordered as)
    (ordered' : Table.Ordered bs)
    (same : ∀ key, (Table.get? key as == Table.get? key bs) = true) : agreesMembers as bs = true := by
  induction as generalizing bs with
  | nil =>
    cases bs with
    | nil => rfl
    | cons b bs =>
      obtain ⟨l, b⟩ := b
      have first := same l
      simp [Table.get?_cons] at first
  | cons a as ih =>
    obtain ⟨k, a⟩ := a
    cases bs with
    | nil =>
      have first := same k
      simp [Table.get?_cons] at first
    | cons b bs =>
      obtain ⟨l, b⟩ := b
      -- Of two different first names, the lesser one is missing on the other side.
      have heads : k = l := by
        rcases Std.lt_trichotomy k l with less | equal | greater
        · have first := same k
          simp [ordered'.get?_of_lt less, Table.get?_cons] at first
        · exact equal
        · have first := same l
          simp [ordered.get?_of_lt greater, Table.get?_cons] at first
      subst heads
      have head := same k
      simp only [Table.get?_cons, if_true] at head
      have tail : agreesMembers as bs = true := by
        refine ih (List.pairwise_cons.mp ordered).2 (List.pairwise_cons.mp ordered').2 fun key => ?_
        by_cases first : k = key
        · rw [← first, ordered.get?_rest, ordered'.get?_rest]
          rfl
        · have later := same key
          rwa [Table.get?_cons, Table.get?_cons, if_neg first, if_neg first] at later
      simp only [agreesMembers, decide_true, Bool.true_and, Bool.and_eq_true]
      exact ⟨head, tail⟩

/-- Objects in order agree exactly if their members do, name by name. -/
theorem object_beq_iff {as bs : List (String × Document)} (ordered : Table.Ordered as)
    (ordered' : Table.Ordered bs) :
    (object as == object bs) = true ↔ ∀ key, (Table.get? key as == Table.get? key bs) = true :=
  ⟨fun same => get?_of_agreesMembers same, agreesMembers_of_get? ordered ordered'⟩

/-! Paths -/

/-- What is found along a path of names, through objects only: nothing is a member of any other document. -/
def at? : List String → Document → Option Document
  | [], d => some d
  | name :: path, d => (d.get? name).bind (at? path)

theorem at?_cons (name : String) (path : List String) (d : Document) :
    d.at? (name :: path) = (d.get? name).bind (at? path) := rfl

theorem at?_single (name : String) (d : Document) : d.at? [name] = d.get? name := by
  rw [at?_cons]
  cases d.get? name <;> rfl

end Document
end Stowage
