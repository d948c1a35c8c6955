import Stowage.Table

/-! Tables in order. `put` keeps the keys in order and distinct, so what is found in a table made from a
list of entries is what the list has under the key. -/
namespace Stowage.Table

variable {κ : Type u} {α : Type v}

def Ordered [LT κ] (table : List (κ × α)) : Prop := table.Pairwise fun a b => a.1 < b.1

section Lookup

variable [DecidableEq κ]

theorem get?_cons (k key : κ) (value : α) (rest : List (κ × α)) :
    get? key ((k, value) :: rest) = if k = key then some value else get? key rest := rfl

theorem get?_append (key : κ) (first second : List (κ × α)) :
    get? key (first ++ second) = (get? key first).or (get? key second) := by
  induction first with
  | nil => simp
  | cons entry rest ih =>
    obtain ⟨k, value⟩ := entry
    by_cases same : k = key <;> simp [get?, same, ih]

theorem mem_of_get? {key : κ} {value : α} {table : List (κ × α)} (h : get? key table = some value) :
    (key, value) ∈ table := by
  induction table with
  | nil => simp at h
  | cons entry rest ih =>
    obtain ⟨k, old⟩ := entry
    rw [get?_cons] at h
    split at h
    next same => cases h; simp [same]
    next => exact List.mem_cons_of_mem _ (ih h)

theorem get?_eq_none_iff {key : κ} {table : List (κ × α)} :
    get? key table = none ↔ key ∉ keys table := by
  constructor
  · intro missing member
    induction table with
    | nil => cases member
    | cons entry rest ih =>
      obtain ⟨k, value⟩ := entry
      rw [get?_cons] at missing
      split at missing
      next => cases missing
      next apart =>
        rcases List.mem_cons.mp member with same | later
        · exact apart same.symm
        · exact ih missing later
  · intro absent
    cases found : get? key table with
    | none => rfl
    | some value => exact absurd (List.mem_map_of_mem (mem_of_get? found)) absent

theorem eq_nil_of_get? {table : List (κ × α)} (h : ∀ key, get? key table = none) : table = [] := by
  cases table with
  | nil => rfl
  | cons entry rest => exact absurd (List.mem_cons_self ..) (get?_eq_none_iff.mp (h entry.1))

theorem get?_of_mem {key : κ} {value : α} {table : List (κ × α)} (distinct : (keys table).Nodup)
    (member : (key, value) ∈ table) : get? key table = some value := by
  induction table with
  | nil => cases member
  | cons entry rest ih =>
    obtain ⟨k, old⟩ := entry
    obtain ⟨absent, distinct⟩ := List.nodup_cons.mp distinct
    rw [get?_cons]
    rcases List.mem_cons.mp member with same | later
    · cases same; simp
    · have apart : k ≠ key := by
        rintro rfl
        exact absent (List.mem_map.mpr ⟨_, later, rfl⟩)
      rw [if_neg apart, ih distinct later]

theorem get?_eq_some_iff {key : κ} {value : α} {table : List (κ × α)}
    (distinct : (keys table).Nodup) : get? key table = some value ↔ (key, value) ∈ table :=
  ⟨mem_of_get?, get?_of_mem distinct⟩

/-- With distinct keys, the order of the entries does not matter. -/
theorem get?_perm {first second : List (κ × α)} (key : κ) (distinct : (keys first).Nodup)
    (same : first.Perm second) : get? key second = get? key first := by
  apply Option.ext
  intro value
  have distinct' : (keys second).Nodup := (same.map Prod.fst).nodup distinct
  rw [get?_eq_some_iff distinct, get?_eq_some_iff distinct', same.mem_iff]

theorem erase_sublist (key : κ) (table : List (κ × α)) : (erase key table).Sublist table := by
  induction table with
  | nil => exact .slnil
  | cons entry rest ih =>
    obtain ⟨k, value⟩ := entry
    rw [erase]
    split
    · exact ih.cons (k, value)
    · exact ih.cons_cons (k, value)

end Lookup

section Order

variable [LT κ] [Std.Irrefl (α := κ) (· < ·)]

theorem Ordered.nodup {table : List (κ × α)} (h : Ordered table) : (keys table).Nodup := by
  apply List.pairwise_map.mpr
  refine h.imp ?_
  intro a b less same
  rw [same] at less
  exact Std.lt_irrefl less

omit [Std.Irrefl (α := κ) (· < ·)] in
theorem Ordered.erase [DecidableEq κ] {table : List (κ × α)} (h : Ordered table) (key : κ) :
    Ordered (erase key table) :=
  List.Pairwise.sublist (erase_sublist key table) h

end Order

section Put

variable [DecidableEq κ] [LT κ] [DecidableLT κ]

theorem mem_put {key : κ} {value : α} {entry : κ × α} {table : List (κ × α)}
    (h : entry ∈ put key value table) : entry = (key, value) ∨ entry ∈ table := by
  induction table with
  | nil => exact .inl (List.mem_singleton.mp h)
  | cons first rest ih =>
    obtain ⟨k, old⟩ := first
    simp only [put] at h
    split at h
    next => exact (List.mem_cons.mp h).imp_right (List.mem_cons_of_mem _)
    next =>
      split at h
      next => exact List.mem_cons.mp h
      next =>
        rcases List.mem_cons.mp h with same | later
        · exact .inr (same ▸ List.mem_cons_self)
        · exact (ih later).imp_right (List.mem_cons_of_mem _)

theorem mem_keys_put {key other : κ} {value : α} {table : List (κ × α)}
    (h : other ∈ keys (put key value table)) : other = key ∨ other ∈ keys table := by
  obtain ⟨entry, member, rfl⟩ := List.mem_map.mp h
  rcases mem_put member with rfl | there
  · exact .inl rfl
  · exact .inr (List.mem_map_of_mem there)

theorem ofList_eq (entries : List (κ × α)) :
    ofList entries = entries.foldl (fun table entry => put entry.1 entry.2 table) [] := rfl

theorem get?_ofList (key : κ) (entries : List (κ × α)) :
    get? key (ofList entries) = get? key entries.reverse := by
  have general : ∀ table : List (κ × α),
      get? key (entries.foldl (fun table entry => put entry.1 entry.2 table) table) =
        (get? key entries.reverse).or (get? key table) := by
    induction entries with
    | nil => simp
    | cons entry rest ih =>
      obtain ⟨k, value⟩ := entry
      intro table
      rw [List.foldl_cons, ih, get?_put, List.reverse_cons, get?_append]
      by_cases same : key = k
      · subst same; simp [get?]
      · simp [get?, same, Ne.symm same]
  simpa [ofList_eq] using general []

theorem get?_ofList_of_nodup (key : κ) {entries : List (κ × α)} (distinct : (keys entries).Nodup) :
    get? key (ofList entries) = get? key entries := by
  rw [get?_ofList, get?_perm key distinct (List.reverse_perm entries).symm]

variable [Trans (α := κ) (· < ·) (· < ·) (· < ·)] [Std.Trichotomous (α := κ) (· < ·)]

theorem Ordered.put {table : List (κ × α)} (h : Ordered table) (key : κ) (value : α) :
    Ordered (put key value table) := by
  induction table with
  | nil => simp [Table.put, Ordered]
  | cons entry rest ih =>
    obtain ⟨k, old⟩ := entry
    obtain ⟨least, ordered⟩ := List.pairwise_cons.mp h
    simp only [Table.put]
    split
    next same => exact List.pairwise_cons.mpr ⟨by simpa [same] using least, ordered⟩
    next apart =>
      split
      next less =>
        refine List.pairwise_cons.mpr ⟨?_, h⟩
        intro entry member
        rcases List.mem_cons.mp member with rfl | later
        · exact less
        · exact Std.lt_trans less (least entry later)
      next notLess =>
        have greater : k < key := by
          rcases Std.lt_trichotomy k key with less | same | less
          · exact less
          · exact absurd same apart
          · exact absurd less notLess
        refine List.pairwise_cons.mpr ⟨?_, ih ordered⟩
        intro entry member
        rcases mem_keys_put (List.mem_map_of_mem member) with same | later
        · rw [same]; exact greater
        · obtain ⟨other, member, same⟩ := List.mem_map.mp later
          rw [← same]; exact least other member

theorem ordered_ofList (entries : List (κ × α)) : Ordered (ofList entries) := by
  have general : ∀ table : List (κ × α), Ordered table →
      Ordered (entries.foldl (fun table entry => Table.put entry.1 entry.2 table) table) := by
    induction entries with
    | nil => exact fun table h => h
    | cons entry rest ih => exact fun table h => ih _ (h.put entry.1 entry.2)
  rw [ofList_eq]
  exact general [] .nil

/-- Values under different keys can be stored in either order. -/
theorem put_comm [Std.Irrefl (α := κ) (· < ·)] {key other : κ} (apart : key ≠ other) (a b : α)
    (table : List (κ × α)) :
    put key a (put other b table) = put other b (put key a table) := by
  have asymm {x y : κ} (less : x < y) : ¬ y < x := fun greater =>
    Std.lt_irrefl (Std.lt_trans less greater)
  have total (x y : κ) (differ : x ≠ y) : x < y ∨ y < x := by
    rcases Std.lt_trichotomy x y with less | same | greater
    · exact .inl less
    · exact absurd same differ
    · exact .inr greater
  induction table with
  | nil =>
    rcases total key other apart with less | less <;>
      simp [Table.put, less, asymm less, apart, apart.symm]
  | cons entry rest ih =>
    -- Each key goes before the first greater one, so it matters only how the two compare with the head.
    obtain ⟨k, old⟩ := entry
    have trans {x y z : κ} (first : x < y) (second : y < z) : x < z := Std.lt_trans first second
    grind [Table.put]

end Put

end Stowage.Table
