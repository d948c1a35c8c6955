import Stowage.Destination
import Stowage.Proofs.Reference

/-! Where a snapshot is pushed. Its destination is put together from the address of the registry, a name and a
tag, none of which is looked at, and taken apart again as a reference. -/
namespace Stowage

namespace Destination

variable {address name tag : String} {reference : Reference}

def located (address name : String) : List Char :=
  (trimSlashes address).toList ++ '/' :: ("snapshots/" ++ name).toList

theorem reference_toList :
    (of address name tag).reference.toList = located address name ++ ':' :: tag.toList := by
  simp [reference, of, root, snapshotRef, located]

/-- What is accepted without a digest is read by its parts. -/
theorem parse_plain (accepted : Reference.parse (of address name tag).reference = .ok reference)
    (unpinned : '@' ∉ (of address name tag).reference.toList) :
    reference =
      { registry := (Reference.locate (located address name)).1
        repository := (Reference.locate (located address name)).2
        tag := some tag, digest := none } := by
  obtain ⟨valid, -, whole⟩ := Reference.read_ok (Reference.read_of_parse accepted)
  rw [reference_toList] at valid whole unpinned
  rw [Reference.split_of_valid (by simp [located]) unpinned valid] at whole
  simpa using whole

/-- A digest has no slash, so it cannot start within the address. -/
theorem unpinned_iff (accepted : Reference.parse (of address name tag).reference = .ok reference) :
    '@' ∉ (of address name tag).reference.toList ↔ '@' ∉ name.toList ∧ '@' ∉ tag.toList := by
  obtain ⟨valid, -, -⟩ := Reference.read_ok (Reference.read_of_parse accepted)
  rw [reference_toList] at valid ⊢
  -- What follows the address starts with a slash, so a digest from within the address would have one.
  have address_plain : '@' ∉ (trimSlashes address).toList := by
    intro member
    obtain ⟨before, after, split, apart⟩ := List.eq_append_cons_of_mem member
    have cut : Text.cutAt '@' (located address name ++ ':' :: tag.toList) =
        (before, some (after ++ '/' :: ("snapshots/" ++ name).toList ++ ':' :: tag.toList)) :=
      Text.cutAt_eq_some_iff.mpr ⟨by simp [located, split], apart⟩
    simp only [Reference.Parts.isValid, Bool.and_eq_true, Reference.split_digest, cut,
      Option.all_some] at valid
    have told := Reference.isDigest_chars valid.2 '/' (by simp)
    revert told
    decide
  simp [located, address_plain]

theorem locate_located (apart : '/' ∉ (trimSlashes address).toList) :
    Reference.locate (located address name) =
      if Reference.isRegistry (trimSlashes address).toList then
        (if trimSlashes address = Reference.legacyHub then Reference.hub else trimSlashes address,
          "snapshots/" ++ name)
      else (Reference.hub, trimSlashes address ++ "/snapshots/" ++ name) := by
  have whole : String.ofList ((trimSlashes address).toList ++ '/' :: ("snapshots/" ++ name).toList) =
      trimSlashes address ++ "/snapshots/" ++ name := by
    apply String.toList_inj.mp
    simp
  rw [located, Reference.locate_of_slash apart (by simp), whole, String.ofList_toList, String.ofList_toList]

/-- A destination that is accepted is read as it was put together exactly if its address is that of a registry
by its look and nothing starts a digest. A bare name of a host does not look like a registry, and what is
meant for it goes to the public hub. -/
theorem pushed_where_recorded_iff
    (accepted : Reference.parse (of address name tag).reference = .ok reference) :
    (reference = { registry := trimSlashes address, repository := "snapshots/" ++ name
                   tag := some tag, digest := none } ↔
      ('/' ∉ (trimSlashes address).toList ∧ Reference.isRegistry (trimSlashes address).toList = true ∧
        trimSlashes address ≠ Reference.legacyHub) ∧ '@' ∉ name.toList ∧ '@' ∉ tag.toList) ∧
    ('/' ∉ (trimSlashes address).toList → Reference.isRegistry (trimSlashes address).toList = false →
      '@' ∉ name.toList → '@' ∉ tag.toList →
      reference = { registry := Reference.hub, repository := trimSlashes address ++ "/snapshots/" ++ name
                    tag := some tag, digest := none }) := by
  refine ⟨⟨fun told => ?_, fun ⟨⟨apart, host, named⟩, clean⟩ => ?_⟩, fun apart bare nameClean tagClean => ?_⟩
  · have unpinned : '@' ∉ (of address name tag).reference.toList := by
      rw [← Reference.digest_eq_none_iff (Reference.read_of_parse accepted), told]
    have plain := parse_plain accepted unpinned
    rw [told, Reference.mk.injEq] at plain
    have registry := plain.1
    have apart : '/' ∉ (trimSlashes address).toList := by
      rw [registry]
      exact Reference.locate_registry_no_slash (located address name)
    rw [locate_located apart] at registry
    refine ⟨⟨apart, ?_⟩, (unpinned_iff accepted).mp unpinned⟩
    by_cases host : Reference.isRegistry (trimSlashes address).toList = true
    · refine ⟨host, fun legacy => ?_⟩
      rw [if_pos host, if_pos legacy, legacy] at registry
      exact absurd registry.symm Reference.hub_ne_legacyHub
    · rw [if_neg host] at registry
      rw [registry] at host
      exact absurd Reference.isRegistry_hub host
  · rw [parse_plain accepted ((unpinned_iff accepted).mpr clean), locate_located apart]
    simp [host, named]
  · rw [parse_plain accepted ((unpinned_iff accepted).mpr ⟨nameClean, tagClean⟩), locate_located apart]
    simp [bare]

/-- An address with a port is that of a registry. -/
theorem pushed_where_a_port_is :
    ∃ reference, Reference.parse (of "registry.local:5000/" "app" "v1").reference = .ok reference ∧
      reference = { registry := "registry.local:5000", repository := "snapshots/app", tag := some "v1"
                    digest := none } := by
  have accepted : Reference.parse (of "registry.local:5000/" "app" "v1").reference =
      .ok ⟨"registry.local:5000", "snapshots/app", some "v1", none⟩ := rfl
  have address : trimSlashes "registry.local:5000/" = "registry.local:5000" := by decide +kernel
  have recorded := (pushed_where_recorded_iff accepted).1
  rw [address] at recorded
  exact ⟨_, accepted, recorded.mpr (by decide)⟩

/-- A bare host is taken for a part of the repository, and the image goes to the public hub. -/
theorem pushed_to_the_hub :
    Reference.parse (of "registry" "app" "v1").reference =
        .ok { registry := Reference.hub, repository := "registry/snapshots/app", tag := some "v1"
              digest := none } ∧
      trimSlashes "registry" = "registry" ∧ Reference.hub ≠ "registry" :=
  ⟨rfl, by decide +kernel, by decide⟩

end Destination
end Stowage
