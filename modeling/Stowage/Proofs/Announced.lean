import Stowage.Proofs.Layer
import Stowage.Proofs.Spelling

/-! What a request for a remote says of it: host and repository, and the digest. They are put together from what
was read, and read again as the same, unless the repository starts with a domain that is no registry. -/
namespace Stowage

namespace Reference

theorem isName_slash_iff {first rest : List Char} (apart : '/' ∉ first) :
    isName (first ++ '/' :: rest) = true ↔
      (isComponent first = true ∨ isDomain first = true) ∧
        ∀ part ∈ Text.splitOn '/' rest, isComponent part = true := by
  rw [isName, Text.splitOn_append apart]
  cases parts : Text.splitOn '/' rest with
  | nil => exact absurd parts (Text.splitOn_ne_nil '/' rest)
  | cons second others => simp

/-- A part of a repository that is a component, or else a domain that no registry is told by. -/
def isPart (cs : List Char) : Bool := isComponent cs || isLabel cs

theorem isPart_of_isComponent {cs : List Char} (h : isComponent cs = true) : isPart cs = true := by
  simp [isPart, h]

theorem isPart_chars {cs : List Char} (h : isPart cs = true) :
    ∀ c ∈ cs, c.isAlphanum = true ∨ isMark c = true := by
  intro c member
  rcases Bool.or_eq_true .. ▸ h with component | label
  · refine (isComponent_chars component c member).imp_left fun lower => ?_
    rw [isLower_iff] at lower
    rw [Text.isAlphanum_iff]
    omega
  · simp only [isLabel, Bool.and_eq_true, List.all_eq_true, Bool.or_eq_true, decide_eq_true_eq] at label
    refine (label.1.1 c member).imp_right fun dash => ?_
    simp [isMark, dash]

theorem isComponent_iff_of_isPart {cs : List Char} (h : isPart cs = true) :
    isComponent cs = true ↔ ∀ c ∈ cs, c.isUpper = false := by
  refine ⟨isComponent_no_upper, fun lowered => ?_⟩
  rcases Bool.or_eq_true .. ▸ h with component | label
  · exact component
  · exact isComponent_of_isLabel label lowered

/-- The parts of a path are components exactly if no letter in it is in upper case. -/
theorem components_iff {path : List Char} (parts : ∀ part ∈ Text.splitOn '/' path, isPart part = true) :
    (∀ part ∈ Text.splitOn '/' path, isComponent part = true) ↔ ∀ c ∈ path, c.isUpper = false := by
  constructor
  · intro components c member
    by_cases slash : c = '/'
    · rw [slash]
      rfl
    · obtain ⟨part, there, within⟩ := Text.mem_splitOn slash member
      exact isComponent_no_upper (components part there) c within
  · intro lowered part there
    exact (isComponent_iff_of_isPart (parts part there)).mpr fun c within =>
      lowered c (Text.mem_of_mem_splitOn there within)

theorem library_parts {path : List Char} (parts : ∀ part ∈ Text.splitOn '/' path, isPart part = true) :
    ∀ part ∈ Text.splitOn '/' ("library".toList ++ '/' :: path), isPart part = true := by
  rw [Text.splitOn_append (by decide)]
  intro part member
  rcases List.mem_cons.mp member with rfl | later
  · decide
  · exact parts part later

theorem library_join (path : List Char) :
    "library/" ++ String.ofList path = String.ofList ("library".toList ++ '/' :: path) :=
  String.toList_inj.mp (by simp)

/-- A name lies in a registry that it tells, or else in the public hub. -/
theorem locate_cases {name : List Char} (named : isName name = true) :
    (∃ first rest, '/' ∉ first ∧ name = first ++ '/' :: rest ∧
        locate name = (String.ofList first, String.ofList rest) ∧ String.ofList first ≠ hub) ∨
      ∃ path, locate name = (hub, String.ofList path) ∧ '/' ∈ path ∧
        ∀ part ∈ Text.splitOn '/' path, isPart part = true := by
  by_cases flat : '/' ∉ name
  · rw [isName_flat flat] at named
    refine .inr ⟨_, (locate_flat flat).trans (by rw [library_join]), by simp, library_parts ?_⟩
    simpa [Text.splitOn_of_none flat] using isPart_of_isComponent named
  obtain ⟨first, rest, rfl, apart⟩ := List.eq_append_cons_of_mem (not_not.mp flat)
  obtain ⟨head, components⟩ := (isName_slash_iff apart).mp named
  have later : ∀ part ∈ Text.splitOn '/' rest, isPart part = true := fun part member =>
    isPart_of_isComponent (components part member)
  rw [locate_slash apart]
  by_cases registry : isRegistry first = true
  · rw [if_pos registry]
    by_cases shared : registryOf first = hub
    · rw [shared]
      by_cases slash : '/' ∈ rest
      · exact .inr ⟨rest, by simp [slash], slash, later⟩
      · exact .inr ⟨_, by rw [if_pos ⟨rfl, slash⟩, library_join], by simp, library_parts later⟩
    · have own : registryOf first = String.ofList first := by
        refine if_neg fun legacy => shared ?_
        rw [registryOf, if_pos legacy]
      rw [own] at shared ⊢
      exact .inl ⟨first, rest, apart, rfl, by simp [shared], shared⟩
  · rw [if_neg registry]
    refine .inr ⟨_, rfl, by simp, ?_⟩
    rw [Text.splitOn_append apart]
    intro part member
    rcases List.mem_cons.mp member with rfl | member
    · rcases head with component | domain
      · exact isPart_of_isComponent component
      · simp only [isRegistry, Bool.or_eq_true, not_or, List.contains_iff_mem] at registry
        rw [isDomain_of_flat registry.1.1 registry.1.2] at domain
        simp [isPart, domain]
    · exact later part member

theorem cutTag_of_no_colon {cs : List Char} (apart : ':' ∉ cs) : cutTag cs = (cs, none) := by
  rcases cutTag_cases cs with uncut | ⟨name, tag, -, rfl, -⟩
  · exact uncut
  · exact absurd (by simp) apart

def hosted (r : Reference) : List Char := r.host.toList ++ '/' :: r.repository.toList

structure Named (name : List Char) (r : Reference) : Prop where
  valid : isName name = true
  registry : r.registry = (locate name).1
  repository : r.repository = (locate name).2

namespace Named

variable {name : List Char} {r : Reference}

/-- Outside the public hub, what is told is the name itself. -/
theorem hosted_cases (named : Named name r) :
    hosted r = name ∧ (∀ part ∈ Text.splitOn '/' r.repository.toList, isComponent part = true) ∨
      r.registry = hub ∧ hosted r = legacyHub.toList ++ '/' :: r.repository.toList ∧
        '/' ∈ r.repository.toList ∧ ∀ part ∈ Text.splitOn '/' r.repository.toList, isPart part = true := by
  obtain ⟨valid, registry, repository⟩ := named
  obtain ⟨first, rest, apart, rfl, place, own⟩ | ⟨path, place, slash, parts⟩ := locate_cases valid
  · rw [place] at registry repository
    have host : r.host = String.ofList first := by rw [host, registry, if_neg own]
    refine .inl ⟨by simp [hosted, host, repository], ?_⟩
    rw [repository, String.toList_ofList]
    exact ((isName_slash_iff apart).mp valid).2
  · rw [place] at registry repository
    have host : r.host = legacyHub := by rw [host, registry, if_pos rfl]
    refine .inr ⟨registry, by rw [hosted, host], ?_⟩
    rw [repository, String.toList_ofList]
    exact ⟨slash, parts⟩

theorem locate_hosted (named : Named name r) : locate (hosted r) = (r.registry, r.repository) := by
  obtain ⟨same, -⟩ | ⟨registry, told, slash, -⟩ := named.hosted_cases
  · rw [same, named.registry, named.repository]
  · have known : isRegistry legacyHub.toList = true := by decide
    rw [told, registry, locate_of_slash (by decide) slash, if_pos known]
    simp

theorem isName_hosted_iff (named : Named name r) :
    isName (hosted r) = true ↔ ∀ c ∈ r.repository.toList, c.isUpper = false := by
  obtain ⟨same, components⟩ | ⟨-, told, -, parts⟩ := named.hosted_cases
  · rw [same]
    exact iff_of_true named.valid
      ((components_iff fun part there => isPart_of_isComponent (components part there)).mp components)
  · rw [told, isName_slash_iff (by decide), components_iff parts]
    exact and_iff_right (.inl (by decide))

theorem chars_of_parts (told : hosted r = legacyHub.toList ++ '/' :: r.repository.toList)
    (parts : ∀ part ∈ Text.splitOn '/' r.repository.toList, isPart part = true) :
    ∀ c ∈ hosted r, (c.isAlphanum = true ∨ isMark c = true) ∨ c = '/' := by
  have hub_chars : (legacyHub.toList.all fun c => c.isAlphanum || isMark c) = true := by decide
  rw [told]
  intro c member
  by_cases slash : c = '/'
  · exact .inr slash
  · rcases List.mem_append.mp member with host | path
    · exact .inl (by simpa using List.all_eq_true.mp hub_chars c host)
    · obtain ⟨part, there, within⟩ := Text.mem_splitOn slash ((List.mem_cons.mp path).resolve_left slash)
      exact .inl (isPart_chars (parts part there) c within)

/-- Nothing in it starts a tag or a digest. -/
theorem hosted_plain (named : Named name r) : cutTag (hosted r) = (hosted r, none) ∧ '@' ∉ hosted r := by
  obtain ⟨same, -⟩ | ⟨-, told, -, parts⟩ := named.hosted_cases
  · rw [same]
    exact ⟨cutTag_of_name named.valid, isName_no_at named.valid⟩
  · have chars := chars_of_parts told parts
    exact ⟨cutTag_of_no_colon fun colon => absurd (chars ':' colon) (by decide),
      fun sign => absurd (chars '@' sign) (by decide)⟩

theorem hosted_visible (named : Named name r) : ∀ c ∈ hosted r, Text.isVisible c = true := by
  intro c member
  apply isVisible_of_isNameChar
  obtain ⟨same, -⟩ | ⟨-, told, -, parts⟩ := named.hosted_cases
  · rw [same] at member
    exact isName_chars named.valid c member
  · rcases chars_of_parts told parts c member with plain | slash
    · simpa [isNameChar] using Or.inl (Or.inl plain)
    · simp [isNameChar, slash]

end Named

/-- Read alone, a reference in full has the digest that is put behind it, or no digest at all. -/
theorem Named.read_pinned {name digest : List Char} {r : Reference} (named : Named name r)
    (lowered : ∀ c ∈ r.repository.toList, c.isUpper = false) (short : r.repository.utf8ByteSize ≤ 255)
    (sound : isDigest digest = true) (checked : checkDigest digest = .ok ()) {text : String}
    (whole : text.toList = hosted r ++ '@' :: digest) :
    read text = .ok ⟨r.registry, r.repository, none, some (String.ofList digest)⟩ := by
  obtain ⟨uncut, unpinned⟩ := named.hosted_plain
  have parts : Parts.split text.toList = ⟨hosted r, none, some digest⟩ := by
    rw [whole, Parts.split, Text.cutAt_eq_some_iff.mpr ⟨rfl, unpinned⟩]
    simp only [uncut]
  rw [read_of_valid] <;> rw [parts]
  · simp [named.locate_hosted]
  · simp [Parts.isValid, named.isName_hosted_iff.mpr lowered, sound]
  · rwa [named.locate_hosted]
  · rintro _ ⟨⟩
    exact checked

theorem Named.read_hosted {name : List Char} {r : Reference} (named : Named name r)
    (lowered : ∀ c ∈ r.repository.toList, c.isUpper = false) (short : r.repository.utf8ByteSize ≤ 255)
    {text : String} (whole : text.toList = hosted r) :
    read text = .ok ⟨r.registry, r.repository, some "latest", none⟩ := by
  rw [read_name, whole, named.locate_hosted] <;> rw [whole]
  · exact named.isName_hosted_iff.mpr lowered
  · exact named.hosted_plain.2
  · rwa [named.locate_hosted]

/-- With a letter in upper case in the repository nothing is read, whatever comes behind an `@`. -/
theorem Named.read_shouted {name : List Char} {r : Reference} (named : Named name r)
    (upper : ∃ c ∈ r.repository.toList, c.isUpper = true) {text : String} {digest : Option (List Char)}
    (cut : Text.cutAt '@' text.toList = (hosted r, digest)) : read text = .error .format := by
  have invalid : isName (hosted r) = false := by
    obtain ⟨c, member, shouted⟩ := upper
    rw [Bool.eq_false_iff, ne_eq, named.isName_hosted_iff]
    intro lowered
    rw [lowered c member] at shouted
    cases shouted
  refine read_of_invalid (fun empty => ?_) ?_
  · simp [empty, hosted] at cut
  · rw [Parts.split, cut]
    simp [named.hosted_plain.1, Parts.isValid, invalid]

end Reference

namespace Remote

variable {access : GlobalAccess} {version : String} {remote : Remote}

theorem resolve_named (h : resolve access version = .ok remote) : ∃ name, Reference.Named name remote.reference := by
  obtain ⟨valid, -, whole⟩ := Reference.read_ok (resolve_ok h)
  simp only [Reference.Parts.isValid, Bool.and_eq_true] at valid
  exact ⟨_, valid.1.1, by rw [whole], by rw [whole]⟩

/-- What a request for a remote says of it is read as what the request asks for. -/
structure Announced (r : Remote) : Prop where
  image : ∃ reference digest, Reference.parse r.image = .ok reference ∧ reference.digest = some digest ∧
    (reference.host = r.host ∧ reference.repository = r.repository ∧ digest = r.digest) ∧
    ∀ scheme, r.blobUrl scheme =
      scheme.text ++ "://" ++ reference.host ++ "/v2/" ++ reference.repository ++ "/blobs/" ++ digest
  repository : ∃ reference, Reference.parse r.qualifiedRepository = .ok reference ∧
    reference.host = r.host ∧ reference.repository = r.repository

theorem qualifiedRepository_toList (r : Remote) : r.qualifiedRepository.toList = Reference.hosted r.reference := by
  simp [qualifiedRepository, Reference.hosted, host, repository]

theorem image_toList (r : Remote) :
    r.image.toList = Reference.hosted r.reference ++ '@' :: r.digest.toList := by
  simp [image, qualifiedRepository_toList]

theorem announced_of_lowered (resolved : resolve access version = .ok remote)
    (lowered : ∀ c ∈ remote.repository.toList, c.isUpper = false) : remote.Announced := by
  obtain ⟨name, named⟩ := resolve_named resolved
  obtain ⟨digest, sound, checked⟩ := resolve_digest resolved
  have short := Reference.read_size (resolve_ok resolved)
  have pinned := named.read_pinned lowered short (digest ▸ sound) (digest ▸ checked) (image_toList remote)
  rw [String.ofList_toList] at pinned
  have plain := named.read_hosted lowered short (qualifiedRepository_toList remote)
  exact ⟨⟨_, _, Reference.parse_of_read pinned, rfl, ⟨rfl, rfl, rfl⟩, fun _ => rfl⟩,
    ⟨_, Reference.parse_of_read plain, rfl, rfl⟩⟩

/-- Only a repository of the public hub can have letters in upper case. -/
theorem unread_of_upper (resolved : resolve access version = .ok remote)
    (upper : ∃ c ∈ remote.repository.toList, c.isUpper = true) :
    remote.registry = Reference.hub ∧
      Reference.parse remote.image = .error ⟨remote.image, "invalid reference format"⟩ ∧
      Reference.parse remote.qualifiedRepository =
        .error ⟨remote.qualifiedRepository, "invalid reference format"⟩ := by
  obtain ⟨name, named⟩ := resolve_named resolved
  have unpinned := named.hosted_plain.2
  have image := named.read_shouted upper (Text.cutAt_eq_some_iff.mpr ⟨image_toList remote, unpinned⟩)
  have repository := named.read_shouted upper
    (Text.cutAt_eq_none_iff.mpr ⟨(qualifiedRepository_toList remote).symm,
      qualifiedRepository_toList remote ▸ unpinned⟩)
  refine ⟨?_, by rw [Reference.parse, image]; rfl, by rw [Reference.parse, repository]; rfl⟩
  obtain ⟨-, components⟩ | ⟨registry, -⟩ := named.hosted_cases
  · obtain ⟨c, member, shouted⟩ := upper
    have parts := fun part there => Reference.isPart_of_isComponent (components part there)
    rw [(Reference.components_iff parts).mp components c member] at shouted
    cases shouted
  · exact registry

/-- A request for a remote says in readable form what it asks for, exactly if no letter of the repository is in
upper case. One can be where a repository of the public hub starts like a domain, and what a request for it says
is no reference. -/
theorem announced_iff_lowered (resolved : resolve access version = .ok remote) :
    (remote.Announced ↔ ∀ c ∈ remote.repository.toList, c.isUpper = false) ∧
    ((∃ c ∈ remote.repository.toList, c.isUpper = true) →
      remote.registry = Reference.hub ∧
        Reference.parse remote.image = .error ⟨remote.image, "invalid reference format"⟩ ∧
        Reference.parse remote.qualifiedRepository =
          .error ⟨remote.qualifiedRepository, "invalid reference format"⟩) := by
  refine ⟨⟨fun announced c member => ?_, announced_of_lowered resolved⟩, unread_of_upper resolved⟩
  by_contra shouted
  obtain ⟨reference, _, read, -⟩ := announced.image
  rw [(unread_of_upper resolved ⟨c, member, by simpa using shouted⟩).2.1] at read
  cases read

/-- The application is announced by its host and its digest. -/
theorem announced_of_hashed :
    resolve Example.hashed "1" = .ok (Example.remote Example.hashed) ∧
      (Example.remote Example.hashed).Announced := by
  have lowered : (['a', 'p', 'p'].all fun c => !c.isUpper) = true := by decide
  refine ⟨Example.resolve_hashed, (announced_iff_lowered Example.resolve_hashed).1.mpr fun c member => ?_⟩
  simpa using List.all_eq_true.mp lowered c member

end Remote

namespace Example

def shouted : GlobalAccess := ⟨"Uppercase/lowercase", hashed.digest⟩

def shoutedRemote : Remote where
  canonical := shouted.pinned "1.0.0"
  version := "1.0.0"
  reference := ⟨"docker.io", "Uppercase/lowercase", some "1.0.0", some shouted.digest⟩
  digest := shouted.digest
  pinned := rfl

theorem read_shouted : Reference.read (shouted.pinned "1.0.0") = .ok shoutedRemote.reference := by
  simp only [Reference.read, GlobalAccess.pinned, shouted, hashed, String.reduceAppend, String.reduceToList]
  rfl

theorem resolve_shouted : Remote.resolve shouted "1.0.0" = .ok shoutedRemote :=
  Remote.resolve_of_read read_shouted rfl

end Example

/-- A remote that is resolved, and whose image is no reference. -/
theorem Remote.image_unread :
    resolve Example.shouted "1.0.0" = .ok Example.shoutedRemote ∧
      Example.shoutedRemote.image = "index.docker.io/Uppercase/lowercase@" ++ Example.shouted.digest ∧
      Reference.parse Example.shoutedRemote.image =
        .error ⟨Example.shoutedRemote.image, "invalid reference format"⟩ :=
  ⟨Example.resolve_shouted, rfl, (unread_of_upper Example.resolve_shouted ⟨'U', by decide, rfl⟩).2.1⟩

end Stowage
