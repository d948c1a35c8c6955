import Stowage.Proofs.Pinned

/-! How a text is taken apart as a reference. The first `@` starts the digest; of the colons before it, one in the
last segment starts the tag, and one before the first slash a port. -/
namespace Stowage.Reference

theorem isComponent_no_colon {cs : List Char} (h : isComponent cs = true) : ':' ∉ cs := by
  have never : ∀ last : Last, last.next? ':' = none := by
    intro last
    cases last <;> decide
  suffices general : ∀ last, componentRest last cs = true → ':' ∉ cs from general .start h
  clear h
  induction cs with
  | nil => simp
  | cons c cs ih =>
    intro last valid member
    unfold componentRest at valid
    rcases List.mem_cons.mp member with rfl | later
    · rw [never] at valid
      cases valid
    · split at valid
      next next _ => exact ih next valid later
      next => cases valid

/-- Only before the first slash of a name can there be a port. -/
theorem isName_no_colon {first rest : List Char} (apart : '/' ∉ first)
    (h : isName (first ++ '/' :: rest) = true) : ':' ∉ rest := by
  intro member
  obtain ⟨part, there, within⟩ := Text.mem_splitOn (by decide : ':' ≠ '/') member
  unfold isName at h
  rw [Text.splitOn_append apart] at h
  cases parts : Text.splitOn '/' rest with
  | nil =>
    rw [parts] at there
    cases there
  | cons second others =>
    rw [parts] at h there
    simp only [Bool.and_eq_true] at h
    exact isComponent_no_colon (List.all_eq_true.mp h.2 part there) within

theorem isName_flat {cs : List Char} (flat : '/' ∉ cs) : isName cs = isComponent cs := by
  rw [isName, Text.splitOn_of_none flat]

/-- A colon in a name has slashes only after it. -/
theorem isName_colon {before after : List Char} (h : isName (before ++ ':' :: after) = true) :
    '/' ∉ before ∧ '/' ∈ after := by
  by_cases slash : '/' ∈ before ++ ':' :: after
  · obtain ⟨first, rest, whole, apart⟩ := List.eq_append_cons_of_mem slash
    rw [whole] at h
    have plain := isName_no_colon apart h
    rcases Text.append_cons_cases whole with ⟨-, same, -⟩ | ⟨between, rfl, rfl⟩ | ⟨between, -, rfl⟩
    · exact absurd same (by decide)
    · exact ⟨fun member => apart (by simp [member]), by simp⟩
    · exact absurd (by simp) plain
  · rw [isName_flat slash] at h
    exact absurd (by simp) (isComponent_no_colon h)

/-- A domain with a colon has a port behind it. -/
theorem isDomain_port {host port : List Char} (h : isDomain (host ++ ':' :: port) = true) :
    port ≠ [] ∧ port.all Char.isDigit = true := by
  obtain ⟨⟨name, ds⟩, cut⟩ : ∃ parts, Text.cutAt ':' (host ++ ':' :: port) = parts := ⟨_, rfl⟩
  rw [isDomain, cut] at h
  cases ds with
  | none => exact absurd (by simp) (Text.cutAt_eq_none_iff.mp cut).2
  | some ds =>
    simp only [Bool.and_eq_true, Bool.not_eq_true', List.isEmpty_eq_false_iff] at h
    have apart : ':' ∉ ds := fun member =>
      absurd (List.all_eq_true.mp h.2.2 ':' member) (by decide)
    obtain ⟨rfl, rfl⟩ := Text.cutAt_last cut apart
    exact h.2

/-- A colon before the first slash of a name has a port behind it. -/
theorem isName_port {host port rest : List Char} (apart : '/' ∉ host ++ ':' :: port)
    (h : isName ((host ++ ':' :: port) ++ '/' :: rest) = true) :
    port ≠ [] ∧ port.all Char.isDigit = true := by
  have colon : isComponent (host ++ ':' :: port) ≠ true := fun component =>
    absurd (by simp) (isComponent_no_colon component)
  rw [isName, Text.splitOn_append apart] at h
  cases parts : Text.splitOn '/' rest with
  | nil =>
    rw [parts] at h
    exact absurd h colon
  | cons second others =>
    rw [parts] at h
    simp only [Bool.and_eq_true, Bool.or_eq_true] at h
    exact isDomain_port (h.1.resolve_left colon)

/-- A tag has no character but those of tags, and the first is one of them too. -/
theorem isTagChar_of_isTag {cs : List Char} (h : isTag cs = true) : ∀ c ∈ cs, isTagChar c = true := by
  cases cs with
  | nil => cases h
  | cons first rest =>
    simp only [isTag, Bool.and_eq_true, List.all_eq_true] at h
    intro c member
    rcases List.mem_cons.mp member with rfl | later
    · simp [isTagChar, h.1.1]
    · exact h.1.2 c later

theorem isTag_apart {c : Char} (mark : isTagChar c = false) {cs : List Char} (h : isTag cs = true) :
    c ∉ cs := fun member => by
  rw [isTagChar_of_isTag h c member] at mark
  cases mark

theorem isTag_no_colon {cs : List Char} (h : isTag cs = true) : ':' ∉ cs := isTag_apart (by decide) h

theorem isTag_no_slash {cs : List Char} (h : isTag cs = true) : '/' ∉ cs := isTag_apart (by decide) h

/-- A tag is cut off at a colon that no slash follows, if at all. -/
theorem cutTag_cases (cs : List Char) :
    cutTag cs = (cs, none) ∨
      ∃ name tag, cutTag cs = (name, some tag) ∧ cs = name ++ ':' :: tag ∧ '/' ∉ tag := by
  unfold cutTag
  dsimp only
  have whole := Text.take_append_run (fun c => decide (c ≠ '/')) cs
  have flat : '/' ∉ (cs.reverse.takeWhile (fun c => decide (c ≠ '/'))).reverse := fun member => by
    simpa using List.all_eq_true.mp List.all_takeWhile '/' (List.mem_reverse.mp member)
  generalize (cs.reverse.takeWhile (fun c => decide (c ≠ '/'))).reverse = segment at whole flat ⊢
  obtain ⟨⟨last, _ | tag⟩, cut⟩ : ∃ parts, Text.cutAt ':' segment = parts := ⟨_, rfl⟩
  · rw [cut]
    obtain ⟨rfl, -⟩ := Text.cutAt_eq_none_iff.mp cut
    exact .inl (by rw [whole])
  · rw [cut]
    obtain ⟨rfl, -⟩ := Text.cutAt_eq_some_iff.mp cut
    exact .inr ⟨_, _, rfl, by rw [List.append_assoc, whole], fun member => flat (by simp [member])⟩

/-- A name with a slash and a tag are cut apart where they were put together, unless a part is invalid. -/
theorem cutTag_of_valid {name tag : List Char} (slash : '/' ∈ name)
    (named : isName (cutTag (name ++ ':' :: tag)).1 = true)
    (tagged : (cutTag (name ++ ':' :: tag)).2.all isTag = true) :
    cutTag (name ++ ':' :: tag) = (name, some tag) := by
  obtain ⟨first, rest, rfl, apart⟩ := List.eq_append_cons_of_mem slash
  rcases cutTag_cases ((first ++ '/' :: rest) ++ ':' :: tag) with uncut | ⟨name, tag', cut, whole, -⟩
  · rw [uncut, List.append_assoc] at named
    exact absurd (isName_no_colon apart named) (by simp)
  · rw [cut] at named tagged ⊢
    -- Had it been cut earlier, there would be a colon in the tag; later, one in the name.
    rcases Text.append_cons_cases whole with ⟨rfl, -, rfl⟩ | ⟨between, rfl, -⟩ | ⟨between, -, rfl⟩
    · rfl
    · rw [List.append_assoc] at named
      exact absurd (isName_no_colon apart named) (by simp)
    · exact absurd (isTag_no_colon tagged) (by simp)

/-- From a valid name no tag is cut. -/
theorem cutTag_of_name {cs : List Char} (h : isName cs = true) : cutTag cs = (cs, none) := by
  rcases cutTag_cases cs with uncut | ⟨name, tag, -, rfl, flat⟩
  · exact uncut
  · exact absurd (isName_colon h).2 flat

/-- Without a slash, a name and a tag are cut apart where they were put together, unless a part is invalid. -/
theorem cutTag_of_flat {name tag : List Char} (flat : '/' ∉ name ++ ':' :: tag)
    (named : isName (cutTag (name ++ ':' :: tag)).1 = true)
    (tagged : (cutTag (name ++ ':' :: tag)).2.all isTag = true) :
    cutTag (name ++ ':' :: tag) = (name, some tag) := by
  rcases cutTag_cases (name ++ ':' :: tag) with uncut | ⟨name', tag', cut, whole, -⟩
  · rw [uncut] at named
    exact absurd (isName_colon named).2 fun later => flat (by simp [later])
  · rw [cut] at named tagged ⊢
    have apart : ':' ∉ name' := fun member => by
      obtain ⟨before, after, rfl⟩ := List.append_of_mem member
      exact flat (whole ▸ by simp [(isName_colon named).2])
    have cuts : Text.cutAt ':' (name ++ ':' :: tag) = (name', some tag') :=
      Text.cutAt_eq_some_iff.mpr ⟨whole, apart⟩
    obtain ⟨rfl, rfl⟩ := Text.cutAt_last cuts (isTag_no_colon tagged)
    rfl

/-- Behind a slash, a tag is cut from what follows the slash only. -/
theorem cutTag_of_slash (first rest : List Char) :
    ∃ last, (cutTag (first ++ '/' :: rest)).1 = first ++ '/' :: last ∧
      ((cutTag (first ++ '/' :: rest)).2 = none ∧ rest = last ∨
        ∃ tag, (cutTag (first ++ '/' :: rest)).2 = some tag ∧ rest = last ++ ':' :: tag) := by
  rcases cutTag_cases (first ++ '/' :: rest) with uncut | ⟨name, tag, cut, whole, flat⟩
  · rw [uncut]
    exact ⟨rest, rfl, .inl ⟨rfl, rfl⟩⟩
  · rw [cut]
    rcases Text.append_cons_cases whole with ⟨-, same, -⟩ | ⟨last, rfl, rfl⟩ | ⟨between, -, rfl⟩
    · exact absurd same (by decide)
    · exact ⟨last, rfl, .inr ⟨tag, rfl, rfl⟩⟩
    · exact absurd (by simp) flat

theorem split_digest_eq_none_iff {cs : List Char} : (Parts.split cs).digest = none ↔ '@' ∉ cs := by
  rw [split_digest]
  obtain ⟨⟨before, digest⟩, cut⟩ : ∃ parts, Text.cutAt '@' cs = parts := ⟨_, rfl⟩
  rw [cut]
  constructor
  · rintro rfl
    exact (Text.cutAt_eq_none_iff.mp cut).2
  · intro apart
    rw [Text.cutAt_eq_none_iff.mpr ⟨rfl, apart⟩] at cut
    exact (congrArg Prod.snd cut).symm

/-- No digest is read from a text exactly if nothing in it starts one. -/
theorem digest_eq_none_iff {text : String} {reference : Reference} (h : read text = .ok reference) :
    reference.digest = none ↔ '@' ∉ text.toList := by
  obtain ⟨-, -, whole⟩ := read_ok h
  rw [← split_digest_eq_none_iff, whole, Option.map_eq_none_iff]

/-- Without a digest, valid parts are those that the text was put together from. -/
theorem split_of_valid {name tag : List Char} (slash : '/' ∈ name) (unpinned : '@' ∉ name ++ ':' :: tag)
    (valid : (Parts.split (name ++ ':' :: tag)).isValid = true) :
    Parts.split (name ++ ':' :: tag) = ⟨name, some tag, none⟩ := by
  unfold Parts.split at valid ⊢
  rw [Text.cutAt_eq_none_iff.mpr ⟨rfl, unpinned⟩] at valid ⊢
  simp only [Parts.isValid, Bool.and_eq_true] at valid
  dsimp only
  rw [cutTag_of_valid slash valid.1.1 valid.1.2]

theorem hub_ne_legacyHub : hub ≠ legacyHub := by decide

theorem isRegistry_hub : isRegistry hub.toList = true := by decide

theorem locate_flat {name : List Char} (flat : '/' ∉ name) :
    locate name = (hub, "library/" ++ String.ofList name) := by
  rw [locate, Text.cutAt_eq_none_iff.mpr ⟨rfl, flat⟩]
  simp [hub_ne_legacyHub, flat]

def registryOf (first : List Char) : String :=
  if String.ofList first = legacyHub then hub else String.ofList first

theorem locate_slash {first rest : List Char} (apart : '/' ∉ first) :
    locate (first ++ '/' :: rest) =
      if isRegistry first then
        (registryOf first,
          (if registryOf first = hub ∧ '/' ∉ rest then "library/" else "") ++ String.ofList rest)
      else (hub, String.ofList (first ++ '/' :: rest)) := by
  unfold locate
  rw [Text.cutAt_eq_some_iff.mpr ⟨rfl, apart⟩]
  by_cases host : isRegistry first = true
  · simp [host, registryOf]
  · simp [host, hub_ne_legacyHub]

/-- A name of two slashes or more lies in no library. -/
theorem locate_of_slash {first rest : List Char} (apart : '/' ∉ first) (inner : '/' ∈ rest) :
    locate (first ++ '/' :: rest) =
      if isRegistry first then
        (if String.ofList first = legacyHub then hub else String.ofList first, String.ofList rest)
      else (hub, String.ofList (first ++ '/' :: rest)) := by
  rw [locate_slash apart]
  simp [inner, registryOf]

/-- A first segment with a colon is a registry other than the public hub. -/
theorem locate_of_colon {first rest : List Char} (apart : '/' ∉ first) (colon : ':' ∈ first) :
    locate (first ++ '/' :: rest) = (String.ofList first, String.ofList rest) := by
  have other (host : String) (plain : ':' ∉ host.toList) : String.ofList first ≠ host := by
    rintro rfl
    exact plain (by simpa using colon)
  have registry : isRegistry first = true := by simp [isRegistry, colon]
  have own : registryOf first = String.ofList first := if_neg (other legacyHub (by decide))
  rw [locate_slash apart, if_pos registry, own]
  simp [other hub (by decide)]

theorem locate_registry_no_slash (name : List Char) : '/' ∉ (locate name).1.toList := by
  unfold locate
  obtain ⟨⟨first, rest⟩, cut⟩ : ∃ parts, Text.cutAt '/' name = parts := ⟨_, rfl⟩
  rw [cut]
  have none : '/' ∉ hub.toList := by decide
  cases rest with
  | none =>
    dsimp only
    split <;> exact none
  | some rest =>
    have apart := (Text.cutAt_eq_some_iff.mp cut).2
    dsimp only
    split
    · dsimp only
      split
      · exact none
      · simpa using apart
    · dsimp only
      split <;> exact none

theorem read_size {text : String} {reference : Reference} (h : read text = .ok reference) :
    reference.repository.utf8ByteSize ≤ 255 := by
  obtain ⟨-, -, whole⟩ := read_ok h
  unfold read at h
  dsimp only at h
  split at h
  · cases h
  split at h
  · cases h
  split at h
  · cases h
  next short =>
    rw [whole]
    exact Nat.le_of_not_lt short

theorem isEmpty_of_split {cs : List Char} (named : isName (Parts.split cs).name = true) : cs.isEmpty = false := by
  cases cs with
  | nil => cases named
  | cons => rfl

/-- Valid parts are read if the repository is not too long and the digest is one that is supported. -/
theorem read_of_valid {text : String} (valid : (Parts.split text.toList).isValid = true)
    (short : (locate (Parts.split text.toList).name).2.utf8ByteSize ≤ 255)
    (checked : ∀ digest, (Parts.split text.toList).digest = some digest → checkDigest digest = .ok ()) :
    read text = .ok
      { registry := (locate (Parts.split text.toList).name).1
        repository := (locate (Parts.split text.toList).name).2
        tag := if (Parts.split text.toList).tag.isNone ∧ (Parts.split text.toList).digest.isNone then
            some "latest"
          else (Parts.split text.toList).tag.map String.ofList
        digest := (Parts.split text.toList).digest.map String.ofList } := by
  have given : text.toList.isEmpty = false := by
    simp only [Parts.isValid, Bool.and_eq_true] at valid
    exact isEmpty_of_split valid.1.1
  simp only [read, given, valid, Nat.not_lt.mpr short, Bool.not_true, Bool.false_eq_true, if_false]
  cases written : (Parts.split text.toList).digest with
  | none => rfl
  | some digest =>
    simp only [checked digest written]
    rfl

theorem read_of_invalid {text : String} (given : text.toList ≠ [])
    (invalid : (Parts.split text.toList).isValid = false) : read text = .error .format := by
  simp only [read, List.isEmpty_eq_false_iff.mpr given, invalid, Bool.not_false, Bool.false_eq_true,
    if_false, if_true]

/-- A valid name alone is read as one of the latest version. -/
theorem read_name {text : String} (named : isName text.toList = true) (unpinned : '@' ∉ text.toList)
    (short : (locate text.toList).2.utf8ByteSize ≤ 255) :
    read text = .ok
      { registry := (locate text.toList).1, repository := (locate text.toList).2
        tag := some "latest", digest := none } := by
  have parts : Parts.split text.toList = ⟨text.toList, none, none⟩ := by
    rw [Parts.split, Text.cutAt_eq_none_iff.mpr ⟨rfl, unpinned⟩]
    simp only [cutTag_of_name named]
  rw [read_of_valid] <;> rw [parts]
  · simp
  · simp [Parts.isValid, named]
  · exact short
  · intro digest written
    cases written

end Stowage.Reference
