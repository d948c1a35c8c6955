import Mathlib.Data.List.Nodup
import Stowage.Transfer.Fetch

/-! Requests with an identity on them. Either every field that is set can stand in a header, and the request goes
on with one value for each of them and all else as it was, or the first one that cannot is told and nothing goes
on. -/
namespace Stowage

namespace Http.Headers

def setEach (hs fields : Headers) : Headers := fields.foldl (fun hs field => hs.set field.1 field.2) hs

@[simp] theorem setEach_cons (hs : Headers) (name value : String) (fields : Headers) :
    setEach hs ((name, value) :: fields) = setEach (hs.set name value) fields := rfl

theorem values_setEach_other {name : String} {fields : Headers} (other : name ∉ fields.map (·.1))
    (hs : Headers) : values name (setEach hs fields) = values name hs := by
  induction fields generalizing hs with
  | nil => rfl
  | cons field fields ih =>
    rw [List.map_cons, List.mem_cons, not_or] at other
    rw [setEach_cons, ih other.2, values_set_other other.1]

theorem mem_setEach {field : String × String} {hs fields : Headers} (member : field ∈ setEach hs fields) :
    field ∈ hs ∨ field ∈ fields := by
  induction fields generalizing hs with
  | nil => exact .inl member
  | cons first fields ih =>
    rcases ih member with kept | later
    · rcases List.mem_append.mp kept with kept | own
      · exact .inl (List.mem_of_mem_filter kept)
      · exact .inr (List.mem_singleton.mp own ▸ .head _)
    · exact .inr (.tail _ later)

/-- No later field of another name takes away what one has set. -/
theorem values_setEach_same {name value : String} {fields : Headers} (distinct : (fields.map (·.1)).Nodup)
    (member : (name, value) ∈ fields) (hs : Headers) : values name (setEach hs fields) = [value] := by
  induction fields generalizing hs with
  | nil => cases member
  | cons field fields ih =>
    rw [List.map_cons, List.nodup_cons] at distinct
    rw [setEach_cons]
    rcases List.mem_cons.mp member with rfl | later
    · rw [values_setEach_other distinct.1, values_set_same]
    · exact ih distinct.2 later _

end Http.Headers

namespace Identity

open Http

def Valid (i : Identity) : Prop := ∀ key value, i.value? key = some value → isHeaderValue value = true

/-- The first field, in the order of the keys, that is set and cannot stand in a header. -/
structure FirstInvalid (i : Identity) (key value : String) : Prop where
  given : i.value? key = some value
  invalid : isHeaderValue value = false
  first : ∃ before after, keys = before ++ key :: after ∧
    ∀ earlier ∈ before, ∀ v, i.value? earlier = some v → isHeaderValue v = true

/-- A request that says what it is for, and apart from that is the one given. -/
structure Decorated (i : Identity) (given sent : Request) : Prop where
  method : sent.method = given.method
  url : sent.url = given.url
  body : sent.body = given.body
  /-- None is left of the values that the name had. -/
  present : ∀ key value, i.value? key = some value → sent.headers.values ("x-" ++ key) = [value]
  absent : ∀ key, i.value? key = none → sent.headers.values ("x-" ++ key) = given.headers.values ("x-" ++ key)
  other : ∀ name, (∀ key, name ≠ "x-" ++ key) → sent.headers.values name = given.headers.values name
  /-- Names stay in lower case, so that there is no other spelling of one. -/
  lower : (∀ field ∈ given.headers, field.1.toLower = field.1) →
    ∀ field ∈ sent.headers, field.1.toLower = field.1

theorem mem_keys_of_value? {i : Identity} {key value : String} (h : i.value? key = some value) : key ∈ keys := by
  unfold value? at h
  simp only [keys, List.mem_cons]
  grind

theorem mem_headers_iff {i : Identity} {field : String × String} :
    field ∈ i.headers ↔ ∃ key, i.value? key = some field.2 ∧ field.1 = "x-" ++ key := by
  obtain ⟨name, value⟩ := field
  simp only [headers, List.mem_filterMap, Option.map_eq_some_iff, Prod.mk.injEq]
  constructor
  · rintro ⟨key, -, value, given, rfl, rfl⟩
    exact ⟨key, given, rfl⟩
  · rintro ⟨key, given, rfl⟩
    exact ⟨key, mem_keys_of_value? given, value, given, rfl, rfl⟩

/-- No two fields have the same header. -/
theorem headers_distinct (i : Identity) : (i.headers.map (·.1)).Nodup := by
  have distinct : keys.Nodup := by decide
  rw [headers, List.map_filterMap]
  refine distinct.filterMap fun key key' name named named' => ?_
  simp only [Option.map_map, Option.mem_def, Option.map_eq_some_iff, Function.comp_apply] at named named'
  obtain ⟨_, -, rfl⟩ := named
  obtain ⟨_, -, same⟩ := named'
  exact ((String.append_right_inj _).mp same).symm

theorem setAll_of_valid {fields : Headers} (valid : ∀ field ∈ fields, isHeaderValue field.2 = true)
    (hs : Headers) : setAll hs fields = .ok (hs.setEach fields) := by
  induction fields generalizing hs with
  | nil => rfl
  | cons field fields ih =>
    rw [setAll, if_pos (valid field (.head _)), ih fun later member => valid later (.tail _ member)]
    rfl

theorem setAll_of_first_invalid {before : Headers} (valid : ∀ field ∈ before, isHeaderValue field.2 = true)
    {name value : String} (invalid : isHeaderValue value = false) (hs after : Headers) :
    setAll hs (before ++ (name, value) :: after) = .error ⟨name, value⟩ := by
  induction before generalizing hs with
  | nil => simp [setAll, invalid]
  | cons field before ih =>
    rw [List.cons_append, setAll, if_pos (valid field (.head _))]
    exact ih (fun later member => valid later (.tail _ member)) _

theorem valid_or_firstInvalid (i : Identity) : i.Valid ∨ ∃ key value, i.FirstInvalid key value := by
  cases found : keys.find? fun key => (i.value? key).any fun value => !isHeaderValue value with
  | none =>
    refine .inl fun key value given => ?_
    have passed := List.find?_eq_none.mp found key (mem_keys_of_value? given)
    simpa [given] using passed
  | some key =>
    obtain ⟨fails, before, after, whole, passed⟩ := List.find?_eq_some_iff_append.mp found
    obtain ⟨value, given, invalid⟩ := Option.any_eq_true _ _ |>.mp fails
    refine .inr ⟨key, value, given, by simpa using invalid, before, after, whole, fun earlier member v set => ?_⟩
    simpa [set] using passed earlier member

theorem decorate_of_valid {i : Identity} (valid : i.Valid) (r : Request) :
    i.decorate r = .ok { r with headers := r.headers.setEach i.headers } := by
  have each : ∀ field ∈ i.headers, isHeaderValue field.2 = true := fun field member => by
    obtain ⟨key, given, -⟩ := mem_headers_iff.mp member
    exact valid key field.2 given
  rw [decorate, setAll_of_valid each]
  rfl

theorem decorate_of_firstInvalid {i : Identity} {key value : String} (bad : i.FirstInvalid key value)
    (r : Request) : i.decorate r = .error ⟨"x-" ++ key, value⟩ := by
  obtain ⟨before, after, whole, passed⟩ := bad.first
  have headers : i.headers =
      (before.filterMap fun key => (i.value? key).map fun value => ("x-" ++ key, value)) ++
        ("x-" ++ key, value) ::
          after.filterMap fun key => (i.value? key).map fun value => ("x-" ++ key, value) := by
    simp [Identity.headers, whole, bad.given]
  have valid : ∀ field ∈ before.filterMap (fun key => (i.value? key).map fun value => ("x-" ++ key, value)),
      isHeaderValue field.2 = true := by
    simp only [List.mem_filterMap, Option.map_eq_some_iff]
    rintro field ⟨earlier, member, v, set, rfl⟩
    exact passed earlier member v set
  rw [decorate, headers, setAll_of_first_invalid valid bad.invalid]
  rfl

theorem decorated_setEach (i : Identity) (r : Request) :
    Decorated i r { r with headers := r.headers.setEach i.headers } where
  method := rfl
  url := rfl
  body := rfl
  present key value given :=
    Headers.values_setEach_same i.headers_distinct (mem_headers_iff.mpr ⟨key, given, rfl⟩) r.headers
  absent key unset := by
    refine Headers.values_setEach_other (fun member => ?_) r.headers
    obtain ⟨field, there, named⟩ := List.mem_map.mp member
    obtain ⟨key', given, name⟩ := mem_headers_iff.mp there
    have same : key = key' := (String.append_right_inj _).mp (named.symm.trans name)
    rw [same, given] at unset
    cases unset
  other name apart := by
    refine Headers.values_setEach_other (fun member => ?_) r.headers
    obtain ⟨field, there, rfl⟩ := List.mem_map.mp member
    obtain ⟨key, -, named⟩ := mem_headers_iff.mp there
    exact apart key named
  lower named field member := by
    rcases Headers.mem_setEach member with kept | own
    · exact named field kept
    · obtain ⟨key, given, name⟩ := mem_headers_iff.mp own
      have fixed : ∀ key ∈ keys, ("x-" ++ key).toLower = "x-" ++ key := by decide +kernel
      rw [name]
      exact fixed key (mem_keys_of_value? given)

/-- With every field valid, exactly one request goes on, decorated, and its result is the result; otherwise the
first invalid field is told, and nothing goes on. -/
theorem decorated_or_refused (i : Identity) (r : Request) :
    (i.Valid ∧ ∃ sent, Decorated i r sent ∧
      ∀ {m : Type → Type} [Monad m] (inner : Transport m), i.decorated inner r = inner sent) ∨
    ∃ key value, i.FirstInvalid key value ∧
      ∀ {m : Type → Type} [Monad m] (inner : Transport m),
        i.decorated inner r = pure (.error (.invalidHeader ⟨"x-" ++ key, value⟩)) := by
  obtain valid | ⟨key, value, bad⟩ := i.valid_or_firstInvalid
  · refine .inl ⟨valid, _, decorated_setEach i r, fun {m} _ inner => ?_⟩
    rw [decorated, decorate_of_valid valid]
  · refine .inr ⟨key, value, bad, fun {m} _ inner => ?_⟩
    rw [decorated, decorate_of_firstInvalid bad]

/-- One value is left of a name, in whatever case and however often it was given. -/
example : (setAll (Headers.add "X-TAG" "old" (Headers.add "x-tag" "older" []))
    ({ tag := some "1" } : Identity).headers).toOption = some [("x-tag", "1")] := by
  decide +kernel

end Identity
end Stowage
