import Stowage.Proofs.Splitting
import Stowage.Remote

/-! References that are pinned by a digest. No part of a digest is a separator, so the digest of a resolved
reference is the one that it was pinned by. -/
namespace Stowage

namespace Reference

/-- What algorithms are named with. -/
theorem algorithmRest_chars {started : Bool} {cs : List Char} (h : algorithmRest started cs = true) :
    ∀ c ∈ cs, c.isAlpha ∨ c.isDigit ∨ c ∈ "-_+.".toList := by
  fun_induction algorithmRest started cs with
  | case1 => simp
  | case2 started c cs letter ih =>
    intro x member
    rcases List.mem_cons.mp member with rfl | later
    · exact .inl letter
    · exact ih h x later
  | case3 started c cs _ digit ih =>
    intro x member
    rcases List.mem_cons.mp member with rfl | later
    · exact .inr (.inl (by simp_all))
    · exact ih h x later
  | case4 started c cs _ _ ih =>
    simp only [Bool.and_eq_true] at h
    intro x member
    rcases List.mem_cons.mp member with rfl | later
    · exact .inr (.inr (by simpa using h.1.2))
    · exact ih h.2 x later

theorem isDigest_parts {cs : List Char} (h : isDigest cs = true) :
    ∃ algorithm hash, cs = algorithm ++ ':' :: hash ∧ ':' ∉ algorithm ∧
      algorithmRest false algorithm = true ∧ hash.all isHexDigit = true := by
  unfold isDigest at h
  split at h
  next algorithm hash cuts =>
    obtain ⟨whole, apart⟩ := Text.cutAt_eq_some_iff.mp cuts
    simp only [Bool.and_eq_true] at h
    exact ⟨algorithm, hash, whole, apart, h.1.1, h.1.2⟩
  next => cases h

/-- What digests are written with. -/
theorem isDigest_chars {cs : List Char} (h : isDigest cs = true) :
    ∀ c ∈ cs, c.isAlpha ∨ isHexDigit c ∨ c ∈ "-_+.:".toList := by
  obtain ⟨algorithm, hash, rfl, -, named, hex⟩ := isDigest_parts h
  intro c member
  rcases List.mem_append.mp member with left | right
  · rcases algorithmRest_chars named c left with letter | digit | mark
    · exact .inl letter
    · exact .inr (.inl (by simp [isHexDigit, digit]))
    · refine .inr (.inr ?_)
      simp only [String.reduceToList, List.mem_cons] at mark ⊢
      grind
  · rcases List.mem_cons.mp right with rfl | digit
    · exact .inr (.inr (by simp))
    · exact .inr (.inl (List.all_eq_true.mp hex c digit))

/-- A digest that is accepted starts with the name of a known algorithm, whatever follows it. -/
theorem checkDigest_stem {digest : List Char} (h : checkDigest digest = .ok ()) :
    ∃ stem ∈ ["sha256", "sha384", "sha512"], digest.take 6 = stem.toList := by
  unfold checkDigest at h
  by_cases short : digest.take 6 = "sha256".toList
  · exact ⟨_, by simp, short⟩
  · by_cases middle : digest.take 6 = "sha384".toList
    · exact ⟨_, by simp, middle⟩
    · by_cases long : digest.take 6 = "sha512".toList
      · exact ⟨_, by simp, long⟩
      · simp only [short, middle, long, if_false] at h
        cases h

/-- What is read is valid in its parts, its digest was checked, and its name tells where it is. -/
theorem read_ok {text : String} {reference : Reference} (h : read text = .ok reference) :
    let parts := Parts.split text.toList
    parts.isValid = true ∧ (∀ digest, parts.digest = some digest → checkDigest digest = .ok ()) ∧
      reference =
        { registry := (locate parts.name).1
          repository := (locate parts.name).2
          tag := if parts.tag.isNone ∧ parts.digest.isNone then some "latest"
            else parts.tag.map String.ofList
          digest := parts.digest.map String.ofList } := by
  unfold read at h
  dsimp only at h ⊢
  split at h
  · cases h
  split at h
  · cases h
  next valid =>
    split at h
    · cases h
    refine ⟨by simpa using valid, ?_⟩
    cases written : (Parts.split text.toList).digest with
    | none =>
      simp only [written, bind, Except.bind, pure, Except.pure, Except.ok.injEq] at h
      exact ⟨nofun, h.symm⟩
    | some digest =>
      cases checked : checkDigest digest with
      | error e => simp [written, checked, bind, Except.bind] at h
      | ok _ =>
        simp only [written, checked, bind, Except.bind, pure, Except.pure, Except.ok.injEq] at h
        refine ⟨fun _ same => ?_, h.symm⟩
        rw [← Option.some.inj same]
        exact checked

theorem parse_of_read {text : String} {reference : Reference} (h : read text = .ok reference) :
    parse text = .ok reference := by
  rw [parse, h]
  rfl

theorem read_of_parse {text : String} {reference : Reference} (h : parse text = .ok reference) :
    read text = .ok reference := by
  unfold parse at h
  cases read : read text with
  | error cause =>
    rw [read] at h
    cases h
  | ok _ =>
    rw [read] at h
    cases h
    rfl

theorem split_digest (cs : List Char) : (Parts.split cs).digest = (Text.cutAt '@' cs).2 := rfl

end Reference

namespace Remote

theorem resolve_ok {access : GlobalAccess} {version : String} {remote : Remote}
    (h : resolve access version = .ok remote) :
    Reference.read (access.pinned version) = .ok remote.reference := by
  cases read : Reference.read (access.pinned version) with
  | error e =>
    simp only [resolve, Reference.parse, read] at h
    cases h
  | ok reference =>
    simp only [resolve, Reference.parse_of_read read, bind, Except.bind] at h
    split at h
    · simp only [pure, Except.pure, Except.ok.injEq] at h
      rw [← h]
    · cases h

theorem resolve_of_read {access : GlobalAccess} {version : String} {reference : Reference}
    {digest : String} (read : Reference.read (access.pinned version) = .ok reference)
    (pinned : reference.digest = some digest) :
    resolve access version = .ok ⟨access.pinned version, version, reference, digest, pinned⟩ := by
  simp only [resolve, Reference.parse_of_read read, bind, Except.bind]
  split
  next digest' written =>
    cases pinned.symm.trans written
    rfl
  next absent =>
    rw [pinned] at absent
    cases absent

/-- A remote is called by the text that it was resolved from. -/
theorem resolve_canonical {access : GlobalAccess} {version : String} {remote : Remote}
    (h : resolve access version = .ok remote) : remote.canonical = access.pinned version := by
  have whole := resolve_of_read (resolve_ok h) remote.pinned
  rw [h] at whole
  exact congrArg canonical (Except.ok.inj whole)

theorem resolve_version {access : GlobalAccess} {version : String} {remote : Remote}
    (h : resolve access version = .ok remote) : remote.version = version := by
  have whole := resolve_of_read (resolve_ok h) remote.pinned
  rw [h] at whole
  exact congrArg Remote.version (Except.ok.inj whole)

/-- The first `@` of what is resolved stands before the digest, which has none. -/
theorem resolve_cut {access : GlobalAccess} {version : String} {remote : Remote}
    (h : resolve access version = .ok remote) :
    Text.cutAt '@' (access.pinned version).toList =
      (access.reference.toList ++ ':' :: version.toList, some access.digest.toList) := by
  obtain ⟨valid, -, whole⟩ := Reference.read_ok (resolve_ok h)
  have digest := remote.pinned ▸ congrArg Reference.digest whole
  obtain ⟨ds, written, -⟩ := Option.map_eq_some_iff.mp digest.symm
  have sound : Reference.isDigest ds = true := by
    simp only [Reference.Parts.isValid, Bool.and_eq_true, written, Option.all_some] at valid
    exact valid.2
  have cuts : Text.cutAt '@'
      ((access.reference.toList ++ ':' :: version.toList) ++ '@' :: access.digest.toList) =
        ((Text.cutAt '@' (access.pinned version).toList).1, some ds) := by
    rw [← written, Reference.split_digest, GlobalAccess.pinned]
    simp [String.toList_append]
  have apart : '@' ∉ ds := fun member => by
    have told := Reference.isDigest_chars sound '@' member
    revert told
    decide
  obtain ⟨named, rfl⟩ := Text.cutAt_last cuts apart
  rw [← named, ← written, Reference.split_digest]

/-- The parts that were resolved: what stands before the digest is cut into a name and a tag. -/
theorem resolve_parts {access : GlobalAccess} {version : String} {remote : Remote}
    (h : resolve access version = .ok remote) :
    Reference.Parts.split (access.pinned version).toList =
      ⟨(Reference.cutTag (access.reference.toList ++ ':' :: version.toList)).1,
        (Reference.cutTag (access.reference.toList ++ ':' :: version.toList)).2,
        some access.digest.toList⟩ := by
  rw [Reference.Parts.split, resolve_cut h]

/-- What stands before the digest is a name, with a tag or without. -/
theorem resolve_valid {access : GlobalAccess} {version : String} {remote : Remote}
    (h : resolve access version = .ok remote) :
    Reference.isName (Reference.cutTag (access.reference.toList ++ ':' :: version.toList)).1 = true ∧
      (Reference.cutTag (access.reference.toList ++ ':' :: version.toList)).2.all Reference.isTag = true := by
  obtain ⟨valid, -, -⟩ := Reference.read_ok (resolve_ok h)
  rw [resolve_parts h] at valid
  simp only [Reference.Parts.isValid, Bool.and_eq_true] at valid
  exact valid.1

/-- What a resolved reference is pinned by is the digest given, and that is a digest. -/
theorem resolve_digest {access : GlobalAccess} {version : String} {remote : Remote}
    (h : resolve access version = .ok remote) :
    remote.digest = access.digest ∧ Reference.isDigest access.digest.toList = true ∧
      Reference.checkDigest access.digest.toList = .ok () := by
  obtain ⟨valid, checked, whole⟩ := Reference.read_ok (resolve_ok h)
  rw [resolve_parts h] at valid checked whole
  have digest := remote.pinned ▸ congrArg Reference.digest whole
  simp only [Reference.Parts.isValid, Bool.and_eq_true, Option.all_some] at valid
  refine ⟨?_, valid.2, checked _ rfl⟩
  simpa using digest

end Remote
end Stowage
