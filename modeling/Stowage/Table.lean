/-! Tables: lists of keys with their values, which `put` keeps in the order of the keys. What `get?`
finds after each operation does not depend on that order. -/
namespace Stowage.Table

variable {κ : Type u} {α : Type v} [DecidableEq κ]

def get? (key : κ) : List (κ × α) → Option α
  | [] => none
  | (k, value) :: rest => if k = key then some value else get? key rest

/-- Stores the value in place of the one there, or before the first greater key. -/
def put [LT κ] [DecidableLT κ] (key : κ) (value : α) : List (κ × α) → List (κ × α)
  | [] => [(key, value)]
  | (k, old) :: rest =>
    if k = key then (key, value) :: rest
    else if key < k then (key, value) :: (k, old) :: rest
    else (k, old) :: put key value rest

def erase (key : κ) : List (κ × α) → List (κ × α)
  | [] => []
  | (k, value) :: rest => if k = key then erase key rest else (k, value) :: erase key rest

def ofList [LT κ] [DecidableLT κ] (entries : List (κ × α)) : List (κ × α) :=
  entries.foldl (fun table (key, value) => put key value table) []

def keys (table : List (κ × α)) : List κ := table.map (·.1)

@[simp] theorem get?_nil (key : κ) : get? key ([] : List (κ × α)) = none := rfl

@[simp] theorem get?_put_same [LT κ] [DecidableLT κ] (key : κ) (value : α) (table : List (κ × α)) :
    get? key (put key value table) = some value := by
  induction table with
  | nil => simp [put, get?]
  | cons entry rest ih =>
    obtain ⟨k, old⟩ := entry
    by_cases same : k = key
    · simp [put, get?, same]
    · by_cases less : key < k <;> simp [put, get?, same, less, ih]

theorem get?_put_other [LT κ] [DecidableLT κ] {key other : κ} (h : other ≠ key) (value : α)
    (table : List (κ × α)) : get? other (put key value table) = get? other table := by
  have h' : key ≠ other := fun e => h e.symm
  induction table with
  | nil => simp [put, get?, h']
  | cons entry rest ih =>
    obtain ⟨k, old⟩ := entry
    by_cases same : k = key
    · subst same; simp [put, get?, h']
    · by_cases less : key < k
      · simp [put, get?, same, less, h']
      · simp [put, get?, same, less, ih]

theorem get?_put [LT κ] [DecidableLT κ] (key other : κ) (value : α) (table : List (κ × α)) :
    get? other (put key value table) = if other = key then some value else get? other table := by
  by_cases h : other = key
  · subst h; simp
  · simp [get?_put_other h, h]

theorem get?_erase (key other : κ) (table : List (κ × α)) :
    get? other (erase key table) = if other = key then none else get? other table := by
  induction table with
  | nil => simp [erase]
  | cons entry rest ih =>
    obtain ⟨k, value⟩ := entry
    by_cases same : k = key
    · subst same
      by_cases h : other = k
      · subst h; simpa [erase] using ih
      · have h' : ¬ k = other := fun e => h e.symm
        simp [erase, ih, h, get?, h']
    · by_cases h : k = other
      · subst h; simp [erase, same, get?]
      · simp [erase, same, get?, h, ih]

end Stowage.Table
