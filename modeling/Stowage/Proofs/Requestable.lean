import Stowage.Proofs.Announced
import Stowage.Proofs.Decorated
import Stowage.Proofs.Encoded
import Stowage.Proofs.Transfer.Course

/-! Every remote that is resolved can be requested. What is said of it is written in visible ASCII, apart from words
of a version that are from beyond; both can stand in headers, and so no transfer makes up an invalid one. -/
namespace Stowage

namespace Identity

/-- The check of a header, byte by byte: no control characters but tabs. -/
theorem isHeaderValue_iff {value : String} : isHeaderValue value = true ↔
    ∀ b ∈ Bytes.ofText value, b.toNat = 9 ∨ 0x20 ≤ b.toNat ∧ b.toNat ≠ 0x7f := by
  have tab (c : Char) : c = '\t' ↔ c.toNat = 9 := ⟨fun h => h ▸ rfl, fun h => Char.ext (UInt32.toNat_inj.mp h)⟩
  simp only [isHeaderValue, List.all_eq_true, isHeaderChar, tab, Bool.or_eq_true, Bool.and_eq_true,
    decide_eq_true_eq]
  constructor
  · intro valid b member
    obtain ⟨c, there, same⟩ := Bytes.mem_ofText_cases member
    have := valid c there
    omega
  · intro valid c member
    obtain ⟨b, there, same⟩ := Bytes.exists_mem_ofText member
    have := valid b there
    omega

end Identity

namespace Remote

variable {access : GlobalAccess} {version : String} {remote : Remote}

/-- What is resolved is written in visible ASCII, apart from letters that a tag has from beyond. -/
theorem resolve_chars (h : resolve access version = .ok remote) :
    (∀ c ∈ access.reference.toList, Text.isVisible c = true) ∧
      ∀ c ∈ version.toList, Text.isVisible c = true ∨ 0x80 ≤ c.toNat ∧ Text.isWord c = true := by
  obtain ⟨named, tagged⟩ := resolve_valid h
  have plain : ∀ c ∈ (Reference.cutTag (access.reference.toList ++ ':' :: version.toList)).1,
      Text.isVisible c = true := fun c member =>
    Reference.isVisible_of_isNameChar (Reference.isName_chars named c member)
  obtain uncut | ⟨name, tag, cut, whole, -⟩ :=
    Reference.cutTag_cases (access.reference.toList ++ ':' :: version.toList)
  · rw [uncut] at plain
    exact ⟨fun c member => plain c (by simp [member]), fun c member => .inl (plain c (by simp [member]))⟩
  rw [cut] at plain tagged
  have words := Reference.isTag_chars tagged
  -- The colon of the tag is the one that was put there, or a later one.
  rcases Text.append_cons_cases whole with ⟨same, -, rest⟩ | ⟨between, before, rest⟩ | ⟨between, -, later⟩
  · rw [same, rest]
    exact ⟨plain, words⟩
  · rw [before] at plain
    rw [rest]
    refine ⟨fun c member => plain c (by simp [member]), fun c member => ?_⟩
    rcases List.mem_append.mp member with within | within
    · exact .inl (plain c (by simp [within]))
    · rcases List.mem_cons.mp within with rfl | within
      · exact .inl rfl
      · exact words c within
  · exact absurd (by simp [later]) (Reference.isTag_no_colon tagged)

structure Requestable (r : Remote) : Prop where
  given : ∀ key ∈ Identity.keys, ∃ value, r.identity.value? key = some value
  /-- Two of the fields have more than visible ASCII, if the version has. -/
  told : ∀ key value, r.identity.value? key = some value → ∀ b ∈ Bytes.ofText value,
    (0x20 < b.toNat ∧ b.toNat < 0x7f) ∨
      (key = "digest" ∨ key = "tag") ∧ 0x80 ≤ b.toNat ∧
        ∃ c ∈ r.version.toList, (0x80 ≤ c.toNat ∧ Text.isWord c = true) ∧ b ∈ String.utf8EncodeChar c
  ascii_iff : (∀ key value, r.identity.value? key = some value → ∀ b ∈ Bytes.ofText value, b.toNat < 0x80) ↔
    ∀ c ∈ r.version.toList, c.toNat < 0x80
  decorated : ∀ request, ∃ sent, r.identity.decorate request = .ok sent ∧ r.identity.Decorated request sent

/-- Two of the fields tell the version, and the other three host, repository and digest alone. -/
theorem identity_cases {key value : String} (h : remote.identity.value? key = some value) :
    (key = "digest" ∧ value = remote.canonical ∨ key = "tag" ∧ value = remote.version) ∨
      ∀ c ∈ value.toList, c ∈ remote.image.toList := by
  have member := Identity.mem_keys_of_value? h
  simp only [Identity.keys, List.mem_cons, List.not_mem_nil, or_false] at member
  rcases member with rfl | rfl | rfl | rfl | rfl
  all_goals obtain rfl := Option.some.inj h
  · exact .inl (.inl ⟨rfl, rfl⟩)
  · refine .inr fun c member => ?_
    simp [image, qualifiedRepository, member]
  · refine .inr fun c member => ?_
    simp [image, member]
  · exact .inl (.inr ⟨rfl, rfl⟩)
  · exact .inr fun c member => member

theorem image_visible (h : resolve access version = .ok remote) :
    ∀ c ∈ remote.image.toList, Text.isVisible c = true := by
  obtain ⟨name, named⟩ := resolve_named h
  obtain ⟨digest, sound, -⟩ := resolve_digest h
  rw [image_toList, digest]
  intro c member
  rcases List.mem_append.mp member with within | behind
  · exact named.hosted_visible c within
  · rcases List.mem_cons.mp behind with rfl | within
    · rfl
    · exact Reference.isDigest_visible sound c within

theorem canonical_chars (h : resolve access version = .ok remote) :
    ∀ c ∈ remote.canonical.toList, Text.isVisible c = true ∨ c ∈ version.toList := by
  obtain ⟨plain, -⟩ := resolve_chars h
  obtain ⟨-, sound, -⟩ := resolve_digest h
  rw [resolve_canonical h]
  intro c member
  simp only [GlobalAccess.pinned, String.toList_append, List.mem_append] at member
  rcases member with (((within | colon) | within) | sign) | within
  · exact .inl (plain c within)
  · obtain rfl := List.mem_singleton.mp colon
    exact .inl rfl
  · exact .inr within
  · obtain rfl := List.mem_singleton.mp sign
    exact .inl rfl
  · exact .inl (Reference.isDigest_visible sound c within)

theorem identity_chars (h : resolve access version = .ok remote) {key value : String}
    (given : remote.identity.value? key = some value) : ∀ c ∈ value.toList, Text.isVisible c = true ∨
      (key = "digest" ∨ key = "tag") ∧ c ∈ version.toList ∧ 0x80 ≤ c.toNat ∧ Text.isWord c = true := by
  have told : ∀ c ∈ version.toList, Text.isVisible c = true ∨
      c ∈ version.toList ∧ 0x80 ≤ c.toNat ∧ Text.isWord c = true :=
    fun c member => ((resolve_chars h).2 c member).imp_right fun beyond => ⟨member, beyond⟩
  intro c member
  rcases identity_cases given with (⟨rfl, rfl⟩ | ⟨rfl, rfl⟩) | imaged
  · rcases canonical_chars h c member with plain | within
    · exact .inl plain
    · exact (told c within).imp_right fun beyond => ⟨.inl rfl, beyond⟩
  · rw [resolve_version h] at member
    exact (told c member).imp_right fun beyond => ⟨.inr rfl, beyond⟩
  · exact .inl (image_visible h c (imaged c member))

theorem identity_bytes (h : resolve access version = .ok remote) {key value : String}
    (given : remote.identity.value? key = some value) : ∀ b ∈ Bytes.ofText value,
      (0x20 < b.toNat ∧ b.toNat < 0x7f) ∨
        (key = "digest" ∨ key = "tag") ∧ 0x80 ≤ b.toNat ∧
          ∃ c ∈ version.toList, (0x80 ≤ c.toNat ∧ Text.isWord c = true) ∧ b ∈ String.utf8EncodeChar c := by
  intro b member
  obtain ⟨c, there, part⟩ := Bytes.mem_ofText_iff.mp member
  rcases identity_chars h given c there with visible | ⟨field, within, beyond⟩
  · rw [Text.isVisible_iff] at visible
    rw [(Bytes.utf8_ascii (by omega)).mp part]
    exact .inl visible
  · exact .inr ⟨field, Bytes.utf8_beyond beyond.1 part, c, within, beyond, part⟩

theorem identity_ascii_iff (h : resolve access version = .ok remote) :
    (∀ key value, remote.identity.value? key = some value → ∀ b ∈ Bytes.ofText value, b.toNat < 0x80) ↔
      ∀ c ∈ version.toList, c.toNat < 0x80 := by
  constructor
  · intro ascii
    exact Bytes.ofText_ascii_iff.mp (ascii "tag" version (congrArg some (resolve_version h)))
  · intro ascii key value given
    refine Bytes.ofText_ascii_iff.mpr fun c member => ?_
    rcases identity_chars h given c member with visible | ⟨-, within, -⟩
    · rw [Text.isVisible_iff] at visible
      omega
    · exact ascii c within

theorem identity_valid (h : resolve access version = .ok remote) : remote.identity.Valid := by
  intro key value given
  refine Identity.isHeaderValue_iff.mpr fun b member => ?_
  rcases identity_bytes h given b member with visible | ⟨-, beyond, -⟩
  · omega
  · omega

theorem requestable_of_resolved (resolved : resolve access version = .ok remote) : remote.Requestable where
  given key member := by
    simp only [Identity.keys, List.mem_cons, List.not_mem_nil, or_false] at member
    rcases member with rfl | rfl | rfl | rfl | rfl <;> exact ⟨_, rfl⟩
  told _ _ given := resolve_version resolved ▸ identity_bytes resolved given
  ascii_iff := resolve_version resolved ▸ identity_ascii_iff resolved
  decorated request :=
    ⟨_, Identity.decorate_of_valid (identity_valid resolved) request, Identity.decorated_setEach _ request⟩

end Remote

namespace Transfer

/-- That a fault of the transport is an answer that was given. -/
inductive Reported (fault : TransportFault) : Deed → Prop
  | connect (proxy : String) : Reported fault ⟨.connect proxy, .error fault⟩
  | execute (request : Http.Request) : Reported fault ⟨.execute request, .error fault⟩
  | publish (target : Reference) (image : Image) :
    Reported fault ⟨.publish target image, .error (.transport fault)⟩

variable {registry : String} {scheme : Scheme} {destination : String} {entry : ResourceEntry}

/-- A transfer makes up no fault of the transport, since every request can carry its identity. -/
theorem Course.fault_reported {fault : TransportFault} {done : List Deed}
    (course : Course registry scheme destination entry (.error (.transport fault)) done) :
    ∃ deed ∈ done, Reported fault deed := by
  cases course with
  | unplanned stopped => cases stopped
  | unconnected => exact ⟨_, .head _, .connect _⟩
  | undecorated url header planned _ invalid =>
    rw [Identity.decorate_of_valid (Remote.identity_valid planned.resolved)] at invalid
    cases invalid
  | unanswered => exact ⟨_, .tail _ (.head _), .execute _⟩
  | refused _ _ _ stopped => cases stopped
  | unpublished => exact ⟨_, .tail _ (.tail _ (.tail _ (.head _))), .publish _ _⟩

/-- Every remote that is resolved can be requested, so that a transfer ends with a fault of the transport, an
invalid header or another, only if whoever was asked has reported it. -/
theorem resolved_requestable :
    (∀ access version remote, Remote.resolve access version = .ok remote → remote.Requestable) ∧
    ∀ (registry : String) (scheme : Scheme) (destination : String) (entry : ResourceEntry) {σ : Type}
      (answer : (e : Errand) → σ → e.Answer × σ) (s : σ) (fault : TransportFault),
      ((run registry scheme destination entry).run answer s).1 = .error (.transport fault) →
      ∃ deed ∈ deeds ((run registry scheme destination entry).history answer s), Reported fault deed := by
  refine ⟨fun _ _ _ => Remote.requestable_of_resolved, ?_⟩
  intro registry scheme destination entry σ answer s fault ended
  have course := run_course registry scheme destination entry answer s
  rw [ended] at course
  exact course.fault_reported

end Transfer

namespace Example

def accented : Remote where
  canonical := hashed.pinned "é"
  version := "é"
  reference := ⟨"example.com", "app", some "é", some hashed.digest⟩
  digest := hashed.digest
  pinned := rfl

theorem read_accented : Reference.read (hashed.pinned "é") = .ok accented.reference := by decide +kernel

theorem resolve_accented : Remote.resolve hashed "é" = .ok accented := Remote.resolve_of_read read_accented rfl

end Example

/-- A remote that is resolved, and whose tag is not ASCII. -/
theorem Remote.tag_beyond_ascii :
    resolve Example.hashed "é" = .ok Example.accented ∧
      ∃ value, Example.accented.identity.value? "tag" = some value ∧
        ∃ b ∈ Bytes.ofText value, ¬ (b.toNat = 9 ∨ 0x20 ≤ b.toNat ∧ b.toNat ≤ 0x7e) := by
  have accent : 'é'.toNat = 0xe9 := rfl
  have member : 'é' ∈ "é".toList := by decide
  obtain ⟨b, there, same⟩ := Bytes.exists_mem_ofText member
  exact ⟨Example.resolve_accented, "é", rfl, b, there, by omega⟩

/-- It can be requested all the same. -/
theorem Transfer.accented_requestable :
    Remote.resolve Example.hashed "é" = .ok Example.accented ∧
      ∀ request, ∃ sent, Example.accented.identity.decorate request = .ok sent := by
  refine ⟨Example.resolve_accented, fun request => ?_⟩
  obtain ⟨sent, decorated, -⟩ :=
    (resolved_requestable.1 _ _ _ Example.resolve_accented).decorated request
  exact ⟨sent, decorated⟩

end Stowage
