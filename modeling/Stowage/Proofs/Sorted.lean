import Stowage.Document.Reader
import Stowage.Proofs.Changes

/-! Which documents have the members of their objects in order: all that are read from a text, and what merges
and changes make of such documents. -/
namespace Stowage

namespace Document

theorem isSorted_object_iff {ms : List (String × Document)} :
    (object ms).isSorted = true ↔
      Table.Ordered ms ∧ ∀ name m, get? name (object ms) = some m → m.isSorted = true := by
  rw [isSorted_object]
  refine and_congr_right fun ordered => ⟨?_, ?_⟩
  · intro sorted name m found
    exact sorted (name, m) (Table.mem_of_get? found)
  · intro sorted m member
    exact sorted m.1 m.2 (Table.get?_of_mem ordered.nodup member)

theorem isSorted_array {ds : List Document} :
    (array ds).isSorted = true ↔ ∀ d ∈ ds, d.isSorted = true := itemsSorted_iff

theorem isSorted_ofMembers {ms : List (String × Document)} (sorted : ∀ m ∈ ms, m.2.isSorted = true) :
    (ofMembers ms).isSorted = true := by
  refine isSorted_object_iff.mpr ⟨Table.ordered_ofList ms, fun name m found => ?_⟩
  have there : Table.get? name ms.reverse = some m := (Table.get?_ofList name ms).symm.trans found
  exact sorted (name, m) (List.mem_reverse.mp (Table.mem_of_get? there))

theorem isSorted_merge {d patch : Document} (sorted : d.isSorted = true)
    (patchSorted : patch.isSorted = true) : (d.merge patch).isSorted = true := by
  induction patch using induction_members generalizing d with
  | step patch ih =>
    cases patchObject : patch.isObject with
    | false => rwa [merge_of_scalar d patchObject]
    | true =>
      obtain ⟨ps, rfl⟩ := exists_of_isObject patchObject
      have ordered : Table.Ordered ps := ordered_members patchSorted
      rw [merge]
      refine isSorted_object_iff.mpr ⟨ordered_mergeMembers (ordered_members sorted), fun name m found => ?_⟩
      replace found : Table.get? name (mergeMembers d.members ps) = some m := found
      rw [get?_mergeMembers name ordered.nodup] at found
      cases there : Table.get? name ps with
      | none =>
        rw [there] at found
        exact isSorted_get? sorted found
      | some p =>
        rw [there, memberMerge] at found
        split at found
        · cases found
        · rw [← Option.some.inj found]
          refine ih name p there ?_ (isSorted_get? patchSorted there)
          cases held : Table.get? name d.members with
          | none => rfl
          | some b => exact isSorted_get? sorted held

theorem isSorted_changes {base target patch : Document} (baseSorted : base.isSorted = true)
    (targetSorted : target.isSorted = true) (changed : base.changes target = some patch) :
    patch.isSorted = true := by
  induction target using induction_members generalizing base patch with
  | step target ih =>
    rcases objects_or_not base target with scalar | ⟨bs, ts, rfl, rfl⟩
    · rw [changes_of_not_objects scalar] at changed
      split at changed
      · cases changed
      · rwa [← Option.some.inj changed]
    · have ordered : Table.Ordered bs := ordered_members baseSorted
      have ordered' : Table.Ordered ts := ordered_members targetSorted
      rw [patch_members changed]
      refine isSorted_object_iff.mpr ⟨Table.ordered_ofList _, fun name m found => ?_⟩
      replace found : Table.get? name (Table.ofList (memberChanges bs ts ++ goneMembers bs ts)) = some m := found
      rw [get?_changes ordered.nodup ordered'.nodup] at found
      cases there : Table.get? name ts with
      | none =>
        rw [there] at found
        obtain ⟨-, -, rfl⟩ := Option.map_eq_some_iff.mp found
        rfl
      | some t =>
        have sorted := isSorted_get? targetSorted there
        rw [there] at found
        cases held : Table.get? name bs with
        | none =>
          rw [held] at found
          rwa [← Option.some.inj found]
        | some b =>
          rw [held, memberPatch_eq_changes (isSorted_get? baseSorted held) sorted] at found
          exact ih name t there (isSorted_get? baseSorted held) sorted found

end Document

namespace Reader

theorem bind_eq_ok_iff {α β : Type} {reading : Reading α} {next : α → Reading β} {b : β} :
    (reading >>= next) = .ok b ↔ ∃ a, reading = .ok a ∧ next a = .ok b := by
  cases reading <;> simp [bind, Except.bind]

/-- Reads nothing but documents in order. -/
def Sorts (element : Element) : Prop := ∀ c d c', element c = .ok (d, c') → d.isSorted = true

theorem word_sorts {value d : Document} (sorted : value.isSorted = true) {ws cs : List Char} {offset : Nat}
    {c : Cursor} (read : word value ws cs offset = .ok (d, c)) : d.isSorted = true := by
  induction ws generalizing cs offset with
  | nil =>
    cases read
    exact sorted
  | cons w ws ih =>
    cases cs with
    | nil => cases read
    | cons c cs =>
      rw [word] at read
      split at read
      · exact ih read
      · cases read

theorem map_sorts {α : Type} {make : α → Document} (sorted : ∀ a, (make a).isSorted = true)
    {reading : Reading (α × Cursor)} {d : Document} {c : Cursor}
    (read : reading.map (fun (a, c) => (make a, c)) = .ok (d, c)) : d.isSorted = true := by
  cases reading with
  | error => cases read
  | ok found =>
    cases read
    exact sorted found.1

/-- What is no container is in order. -/
theorem scalar?_sorts {ch : Char} {c c' : Cursor} {d : Document}
    (read : scalar? ch c = some (.ok (d, c'))) : d.isSorted = true := by
  simp only [scalar?] at read
  split at read
  · exact word_sorts rfl (Option.some.inj read)
  split at read
  · exact word_sorts rfl (Option.some.inj read)
  split at read
  · exact word_sorts rfl (Option.some.inj read)
  split at read
  · exact map_sorts (fun _ => rfl) (Option.some.inj read)
  split at read
  · exact map_sorts (fun _ => rfl) (Option.some.inj read)
  split at read
  · exact map_sorts (fun _ => rfl) (Option.some.inj read)
  cases read

theorem items_sorts {element : Element} (sorts : Sorts element) {fuel : Nat} {first : Bool}
    {seen ds : List Document} {c c' : Cursor} (sorted : ∀ d ∈ seen, d.isSorted = true)
    (read : items element first seen fuel c = .ok (ds, c')) : ∀ d ∈ ds, d.isSorted = true := by
  induction fuel generalizing first seen c with
  | zero => cases read
  | succ fuel ih =>
    rw [items] at read
    obtain ⟨⟨more, c₁⟩, -, read⟩ := bind_eq_ok_iff.mp read
    cases more with
    | false =>
      cases read
      simpa using sorted
    | true =>
      obtain ⟨⟨d, c₂⟩, one, read⟩ := bind_eq_ok_iff.mp read
      exact ih (List.forall_mem_cons.mpr ⟨sorts _ _ _ one, sorted⟩) read

theorem members_sorts {element : Element} (sorts : Sorts element) {fuel : Nat} {first : Bool}
    {seen ms : List (String × Document)} {c c' : Cursor} (sorted : ∀ m ∈ seen, m.2.isSorted = true)
    (read : members element first seen fuel c = .ok (ms, c')) : ∀ m ∈ ms, m.2.isSorted = true := by
  induction fuel generalizing first seen c with
  | zero => cases read
  | succ fuel ih =>
    rw [members] at read
    obtain ⟨⟨name, c₁⟩, -, read⟩ := bind_eq_ok_iff.mp read
    cases name with
    | none =>
      cases read
      simpa using sorted
    | some name =>
      obtain ⟨c₂, -, read⟩ := bind_eq_ok_iff.mp read
      obtain ⟨⟨d, c₃⟩, one, read⟩ := bind_eq_ok_iff.mp read
      exact ih (List.forall_mem_cons.mpr ⟨sorts _ _ _ one, sorted⟩) read

/-- A value that is read is no container, or made of the values that are read one level further in. -/
theorem value_ok {depth : Nat} {c c' : Cursor} {d : Document} (read : value depth c = .ok (d, c')) :
    (∃ ch, scalar? ch c.trimmed = some (.ok (d, c'))) ∨
      ∃ inner fuel, depth = inner + 1 ∧
        ((∃ ds c₁, items (value inner) true [] fuel c.trimmed.step = .ok (ds, c₁) ∧ d = .array ds) ∨
          ∃ ms c₁, members (value inner) true [] fuel c.trimmed.step = .ok (ms, c₁) ∧ d = .ofMembers ms) := by
  unfold value at read
  dsimp only at read
  split at read
  · cases read
  next ch rest _ =>
    split at read
    next scalar => exact .inl ⟨ch, scalar.trans (congrArg some read)⟩
    next =>
      split at read
      · match depth with
        | 0 | 1 => cases read
        | depth + 2 =>
          obtain ⟨⟨ds, c₁⟩, inner, read⟩ := bind_eq_ok_iff.mp read
          cases read
          exact .inr ⟨depth + 1, _, rfl, .inl ⟨ds, c₁, inner, rfl⟩⟩
      split at read
      · match depth with
        | 0 | 1 => cases read
        | depth + 2 =>
          obtain ⟨⟨ms, c₁⟩, inner, read⟩ := bind_eq_ok_iff.mp read
          cases read
          exact .inr ⟨depth + 1, _, rfl, .inr ⟨ms, c₁, inner, rfl⟩⟩
      · cases read

theorem value_sorts (depth : Nat) : Sorts (value depth) := by
  induction depth with
  | zero =>
    intro c d c' read
    rcases value_ok read with ⟨ch, scalar⟩ | ⟨_, _, ⟨⟩, -⟩
    exact scalar?_sorts scalar
  | succ depth ih =>
    intro c d c' read
    rcases value_ok read with ⟨ch, scalar⟩ | ⟨_, _, ⟨⟩, ⟨ds, _, inner, rfl⟩ | ⟨ms, _, inner, rfl⟩⟩
    · exact scalar?_sorts scalar
    · exact Document.isSorted_array.mpr (items_sorts ih (List.forall_mem_nil _) inner)
    · exact Document.isSorted_ofMembers (members_sorts ih (List.forall_mem_nil _) inner)

theorem whole_sorts {element : Element} (sorts : Sorts element) {text : String} {d : Document}
    (read : whole element text = .ok d) : d.isSorted = true := by
  obtain ⟨⟨d', c⟩, one, ended⟩ := bind_eq_ok_iff.mp read
  dsimp only at ended
  split at ended
  · cases ended
    exact sorts _ _ _ one
  · cases ended

end Reader

/-- Every document that is read is in order. -/
theorem Document.isSorted_read {text : String} {d : Document} (h : read text = .ok d) :
    d.isSorted = true := Reader.whole_sorts (Reader.value_sorts _) h

end Stowage
