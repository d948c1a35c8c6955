import Stowage.Proofs.Layer
import Stowage.Proofs.Reference

/-! What a remote is resolved to. Repository, version and digest are put together around a colon and an `@`, and
taken apart again as a reference. A version without a slash is the tag; one with a slash goes on where the
repository ends, with a port. -/
namespace Stowage

namespace Remote

variable {access : GlobalAccess} {version : String} {remote : Remote}

/-- A version without a slash is the tag, and what stands before it is the name. -/
theorem resolve_flat (h : resolve access version = .ok remote) (flat : '/' ∉ version.toList) :
    Reference.cutTag (access.reference.toList ++ ':' :: version.toList) =
      (access.reference.toList, some version.toList) := by
  obtain ⟨named, tagged⟩ := resolve_valid h
  by_cases slash : '/' ∈ access.reference.toList
  · exact Reference.cutTag_of_valid slash named tagged
  · exact Reference.cutTag_of_flat (by simp [slash, flat]) named tagged

/-- A version without a slash changes nothing about what the repository is on its own. -/
theorem resolve_name (h : resolve access version = .ok remote) (flat : '/' ∉ version.toList) :
    remote.reference.tag = some version ∧
      Reference.parse access.reference = .ok
        { registry := remote.registry, repository := remote.repository, tag := some "latest"
          digest := none } := by
  obtain ⟨-, -, whole⟩ := Reference.read_ok (resolve_ok h)
  obtain ⟨named, -⟩ := resolve_valid h
  have short := Reference.read_size (resolve_ok h)
  rw [resolve_parts h] at whole
  rw [resolve_flat h flat] at named whole
  have unpinned : '@' ∉ access.reference.toList := fun member =>
    (Text.cutAt_eq_some_iff.mp (resolve_cut h)).2 (List.mem_append_left _ member)
  rw [registry, repository]
  rw [whole] at short ⊢
  refine ⟨by simp, Reference.parse_of_read (Reference.read_name named unpinned short)⟩

/-- A version with a slash goes on where the repository ends: with a port, and then with a path. -/
theorem resolve_port (h : resolve access version = .ok remote) (slash : '/' ∈ version.toList) :
    ∃ port path, version = port ++ "/" ++ path ∧ (port ≠ "" ∧ port.toList.all Char.isDigit = true) ∧
      remote.registry = access.reference ++ ":" ++ port ∧
      (remote.reference.tag = none ∧ path = remote.repository ∨
        ∃ tag, remote.reference.tag = some tag ∧ path = remote.repository ++ ":" ++ tag) := by
  obtain ⟨-, -, whole⟩ := Reference.read_ok (resolve_ok h)
  obtain ⟨named, tagged⟩ := resolve_valid h
  rw [resolve_parts h] at whole
  have bare : '/' ∉ access.reference.toList := fun member => by
    rw [Reference.cutTag_of_valid member named tagged] at tagged
    exact Reference.isTag_no_slash tagged slash
  obtain ⟨port, path, split, flat⟩ := List.eq_append_cons_of_mem slash
  have joined : access.reference.toList ++ ':' :: version.toList =
      (access.reference.toList ++ ':' :: port) ++ '/' :: path := by simp [split]
  have apart : '/' ∉ access.reference.toList ++ ':' :: port := by simp [bare, flat]
  obtain ⟨last, name, tags⟩ :=
    Reference.cutTag_of_slash (access.reference.toList ++ ':' :: port) path
  rw [joined, name] at named
  rw [joined] at whole
  simp only [Option.isNone_some, Bool.false_eq_true, and_false, if_false] at whole
  rw [name, Reference.locate_of_colon apart (by simp)] at whole
  obtain ⟨given, digits⟩ := Reference.isName_port apart named
  refine ⟨String.ofList port, String.ofList path, ?_, ⟨?_, ?_⟩, ?_, ?_⟩
  · rw [← String.ofList_toList (s := version), split]
    simp [String.append_assoc]
  · simpa using given
  · simpa using digits
  · rw [registry, whole]
    simp [String.append_assoc]
  · rw [repository, whole]
    rcases tags with ⟨untagged, rfl⟩ | ⟨tag, tagged, rfl⟩
    · rw [untagged]
      exact .inl ⟨rfl, rfl⟩
    · rw [tagged]
      exact .inr ⟨String.ofList tag, rfl, by simp [String.append_assoc]⟩

/-- No tag of a remote has a slash. -/
theorem resolve_tag (h : resolve access version = .ok remote) {tag : String}
    (tagged : remote.reference.tag = some tag) : '/' ∉ tag.toList := by
  obtain ⟨-, -, whole⟩ := Reference.read_ok (resolve_ok h)
  obtain ⟨-, valid⟩ := resolve_valid h
  rw [resolve_parts h] at whole
  simp only [whole, Option.isNone_some, Bool.false_eq_true, and_false, if_false] at tagged
  obtain ⟨cs, cut, rfl⟩ := Option.map_eq_some_iff.mp tagged
  rw [cut] at valid
  simpa using Reference.isTag_no_slash valid

/-- A remote has the digest it was given. It has the version for its tag, and registry and repository of the
reference alone, exactly if there is no slash in the version; with one, the version starts with a port of the
registry and ends in the repository. -/
theorem resolved_as_given_iff (h : resolve access version = .ok remote) :
    remote.digest = access.digest ∧
    (remote.reference.tag = some version ∧
        Reference.parse access.reference = .ok
          { registry := remote.registry, repository := remote.repository, tag := some "latest"
            digest := none } ↔
      '/' ∉ version.toList) ∧
    ('/' ∈ version.toList →
      ∃ port path, version = port ++ "/" ++ path ∧ (port ≠ "" ∧ port.toList.all Char.isDigit = true) ∧
        remote.registry = access.reference ++ ":" ++ port ∧
        (remote.reference.tag = none ∧ path = remote.repository ∨
          ∃ tag, remote.reference.tag = some tag ∧ path = remote.repository ++ ":" ++ tag)) := by
  refine ⟨(resolve_digest h).1, ⟨?_, resolve_name h⟩, resolve_port h⟩
  exact fun given => resolve_tag h given.1

end Remote

namespace Example

def portless : GlobalAccess := ⟨"localhost", hashed.digest⟩

def ported : Remote where
  canonical := portless.pinned "5000/app"
  version := "5000/app"
  reference := ⟨"localhost:5000", "app", none, some portless.digest⟩
  digest := portless.digest
  pinned := rfl

theorem read_portless : Reference.read (portless.pinned "5000/app") = .ok ported.reference := by
  simp only [Reference.read, GlobalAccess.pinned, portless, hashed, String.reduceAppend, String.reduceToList]
  rfl

theorem resolve_portless : Remote.resolve portless "5000/app" = .ok ported :=
  Remote.resolve_of_read read_portless rfl

end Example

namespace Remote

/-- The version is read as a port and a path, and nothing is left for a tag. -/
theorem version_read_as_port :
    ∃ remote, resolve Example.portless "5000/app" = .ok remote ∧
      remote.registry = "localhost:5000" ∧ remote.repository = "app" ∧ remote.reference.tag = none ∧
      Reference.parse Example.portless.reference = .ok
        { registry := "docker.io", repository := "library/localhost", tag := some "latest"
          digest := none } := by
  refine ⟨Example.ported, Example.resolve_portless, rfl, rfl, rfl, Reference.parse_of_read ?_⟩
  simp only [Reference.read, Example.portless, String.reduceToList]
  rfl

/-- The first version of an application is its tag. -/
theorem resolved_as_given_of_hashed :
    resolve Example.hashed "1" = .ok (Example.remote Example.hashed) ∧
    (Example.remote Example.hashed).digest = Example.hashed.digest ∧
    (Example.remote Example.hashed).reference.tag = some "1" ∧
    Reference.parse Example.hashed.reference = .ok
      { registry := "example.com", repository := "app", tag := some "latest", digest := none } := by
  obtain ⟨digest, given, -⟩ := resolved_as_given_iff Example.resolve_hashed
  exact ⟨Example.resolve_hashed, digest, given.mpr (by decide)⟩

end Remote
end Stowage
