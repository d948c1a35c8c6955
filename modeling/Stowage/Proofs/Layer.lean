import Mathlib.Control.Monad.Basic
import Stowage.Proofs.Pinned
import Stowage.Transfer.Fetch

/-! What is known of a layer that was fetched. A digest is accepted by the start of the name of its
algorithm, but only two algorithms are computed: the data of any other is taken as it comes. -/
namespace Stowage

namespace Digest

theorem of?_eq_none_iff {algorithm : String} (data : Bytes) :
    of? algorithm data = none ↔ algorithm ≠ "sha256" ∧ algorithm ≠ "sha512" := by
  unfold of?
  split
  next short => simp [short]
  next notShort =>
    split
    next long => simp [long]
    next notLong => simp [notShort, notLong]

/-- The algorithm of an accepted digest starts like one that is known. -/
theorem algorithm_stem {digest : String} (sound : Reference.isDigest digest.toList = true)
    (checked : Reference.checkDigest digest.toList = .ok ()) :
    ∃ stem ∈ ["sha256", "sha384", "sha512"], ∃ rest, algorithm digest = stem ++ rest := by
  obtain ⟨stem, known, start⟩ := Reference.checkDigest_stem checked
  obtain ⟨name, hash, whole, -, -, -⟩ := Reference.isDigest_parts sound
  have colon : digest.toList.contains ':' = true := by rw [whole]; simp
  have apart : ∀ c ∈ stem.toList, decide (c ≠ ':') = true := by
    simp only [List.mem_cons, List.not_mem_nil, or_false] at known
    rcases known with rfl | rfl | rfl <;> simp
  refine ⟨stem, known, String.ofList ((digest.toList.drop 6).takeWhile (· ≠ ':')), ?_⟩
  calc algorithm digest
      = String.ofList (digest.toList.takeWhile (· ≠ ':')) := by
        simp only [algorithm, colon, if_true]
    _ = String.ofList ((stem.toList ++ digest.toList.drop 6).takeWhile (· ≠ ':')) := by
        rw [← start, List.take_append_drop]
    _ = stem ++ String.ofList ((digest.toList.drop 6).takeWhile (· ≠ ':')) := by
        rw [List.takeWhile_append_of_pos apart, String.ofList_append, String.ofList_toList]

end Digest

namespace Layer

theorem verify_ok_iff {expected : String} {data : Bytes} :
    verify expected data = .ok () ↔
      Digest.of? (Digest.algorithm expected) data = some expected ∨
        Digest.algorithm expected ≠ "sha256" ∧ Digest.algorithm expected ≠ "sha512" := by
  rw [← Digest.of?_eq_none_iff data]
  unfold verify
  split
  next actual computed =>
    split
    next same => simp [computed, same]
    next differ => simp [computed, differ]
  next skipped => simp [skipped]

/-- A response is accepted with its body, unless the body fails the digest. -/
theorem accept_ok_iff {url : String} {remote : Remote} {response : Http.Response} {data : Bytes} :
    accept url remote response = .ok data ↔
      (200 ≤ response.status ∧ response.status ≤ 299) ∧ response.body = .ok data ∧
        verify remote.digest data = .ok () := by
  have success : response.isSuccess = true ↔ 200 ≤ response.status ∧ response.status ≤ 299 := by
    simp [Http.Response.isSuccess]
  rw [← success]
  unfold accept
  cases response.isSuccess with
  | false => simp
  | true =>
    cases response.body with
    | error reason =>
      constructor
      · intro h
        cases h
      · rintro ⟨_, whole, _⟩
        cases whole
    | ok body =>
      change (verify remote.digest body).bind (fun _ => .ok body) = .ok data ↔ _
      cases checked : verify remote.digest body with
      | error e =>
        constructor
        · intro h
          cases h
        · rintro ⟨_, ⟨⟩, passed⟩
          rw [checked] at passed
          cases passed
      | ok _ =>
        constructor
        · intro h
          cases h
          exact ⟨rfl, rfl, checked⟩
        · rintro ⟨_, ⟨⟩, _⟩
          rfl

section Fetching

variable {σ : Type} (transport : Transport (StateM σ)) (remote : Remote) (scheme : Scheme) (s : σ)

/-- One request is made, and its response is accepted. -/
theorem fetch_ok_iff {data : Bytes} :
    ((fetch transport remote scheme).run s).1 = .ok data ↔
      ∃ url response, Url.read (remote.blobUrl scheme) = .ok url ∧
        ((transport { url }).run s).1 = .ok response ∧
        accept (remote.blobUrl scheme) remote response = .ok data := by
  dsimp only [fetch]
  cases Url.read (remote.blobUrl scheme) with
  | error e => simp
  | ok url =>
    simp only [Except.ok.injEq, exists_and_left, exists_eq_left', StateT.run_bind]
    obtain ⟨answer, s'⟩ := (transport { url }).run s
    cases answer with
    | error e => simp [bind]
    | ok response =>
      simp only [Except.ok.injEq, exists_eq_left']
      exact Iff.rfl

end Fetching

end Layer

namespace Example

def layer : Bytes := [108, 97, 121, 101, 114]

def hashed : GlobalAccess where
  reference := "example.com/app"
  digest := "sha256:dac1d7cfa95021764849fd102524e141488c5e3a90f861dbb5a12d9ac8584f85"

/-- A digest that is accepted, of an algorithm that is not computed. -/
def unhashed : GlobalAccess where
  reference := "example.com/app"
  digest := "sha384:000000000000000000000000000000000000000000000000" ++
    "000000000000000000000000000000000000000000000000"

def remote (access : GlobalAccess) : Remote where
  canonical := access.pinned "1"
  version := "1"
  reference := ⟨"example.com", "app", some "1", some access.digest⟩
  digest := access.digest
  pinned := rfl

def serving : Transport (StateM Unit) := fun _ => pure (.ok { status := 200, body := .ok layer })

theorem read_hashed : Reference.read (hashed.pinned "1") = .ok (remote hashed).reference := by
  simp only [Reference.read, GlobalAccess.pinned, hashed, String.reduceAppend, String.reduceToList]
  rfl

theorem resolve_hashed : Remote.resolve hashed "1" = .ok (remote hashed) :=
  Remote.resolve_of_read read_hashed rfl

set_option maxRecDepth 1000 in
theorem read_unhashed : Reference.read (unhashed.pinned "1") = .ok (remote unhashed).reference := by
  simp only [Reference.read, GlobalAccess.pinned, unhashed, String.reduceAppend, String.reduceToList]
  rfl

theorem resolve_unhashed : Remote.resolve unhashed "1" = .ok (remote unhashed) :=
  Remote.resolve_of_read read_unhashed rfl

theorem url_hashed : (Url.read ((remote hashed).blobUrl .http)).toOption.isSome = true := by
  simp only [Remote.blobUrl, remote, hashed, Remote.host, Reference.host, Remote.repository,
    Scheme.text, String.reduceAppend, Url.read]
  decide +kernel

theorem url_unhashed : (Url.read ((remote unhashed).blobUrl .http)).toOption.isSome = true := by
  simp only [Remote.blobUrl, remote, unhashed, Remote.host, Reference.host, Remote.repository,
    Scheme.text, String.reduceAppend, Url.read]
  decide +kernel

theorem of?_layer : Digest.of? "sha256" layer = some hashed.digest := by decide +kernel

theorem algorithm_hashed : Digest.algorithm hashed.digest = "sha256" := by
  simp only [Digest.algorithm, hashed, String.reduceToList]
  rfl

theorem algorithm_unhashed : Digest.algorithm unhashed.digest = "sha384" := by
  simp only [Digest.algorithm, unhashed, String.reduceAppend, String.reduceToList]
  rfl

/-- What is served is accepted where it fits the digest. -/
theorem fetch_serving {remote : Remote} (parsed : (Url.read (remote.blobUrl .http)).toOption.isSome = true)
    (fits : Layer.verify remote.digest layer = .ok ()) :
    ((Layer.fetch serving remote .http).run ()).1 = .ok layer := by
  rw [Layer.fetch_ok_iff]
  cases read : Url.read (remote.blobUrl .http) with
  | error e =>
    rw [read] at parsed
    cases parsed
  | ok url =>
    exact ⟨url, _, rfl, rfl, Layer.accept_ok_iff.mpr ⟨⟨by decide, by decide⟩, rfl, fits⟩⟩

end Example

namespace Layer

/-- The layer is let through, and its hash is not that of the digest. -/
theorem unhashed_layer_fetched :
    Remote.resolve Example.unhashed "1" = .ok (Example.remote Example.unhashed) ∧
    ((fetch Example.serving (Example.remote Example.unhashed) .http).run ()).1 = .ok Example.layer ∧
    Digest.of? (Digest.algorithm Example.unhashed.digest) Example.layer = none := by
  have uncomputed : Digest.algorithm Example.unhashed.digest ≠ "sha256" ∧
      Digest.algorithm Example.unhashed.digest ≠ "sha512" := by
    rw [Example.algorithm_unhashed]
    decide
  have passed : verify Example.unhashed.digest Example.layer = .ok () :=
    verify_ok_iff.mpr (.inr uncomputed)
  exact ⟨Example.resolve_unhashed, Example.fetch_serving Example.url_unhashed passed,
    (Digest.of?_eq_none_iff _).mpr uncomputed⟩

section

variable {σ : Type} (transport : Transport (StateM σ)) (remote : Remote) (scheme : Scheme) (s : σ)

/-- For a digest that was resolved, a body is let through exactly if it came whole with a success and has
that digest, or if the digest is of an algorithm that is not computed. Such algorithms are accepted too, if
they start like a known one. -/
theorem fetch_resolved_iff {access : GlobalAccess} {version : String}
    (resolved : Remote.resolve access version = .ok remote) (data : Bytes) :
    (∃ stem ∈ ["sha256", "sha384", "sha512"], ∃ rest, Digest.algorithm access.digest = stem ++ rest) ∧
    (((fetch transport remote scheme).run s).1 = .ok data ↔
      ∃ url response, Url.read (remote.blobUrl scheme) = .ok url ∧
        ((transport { url }).run s).1 = .ok response ∧
        (200 ≤ response.status ∧ response.status ≤ 299) ∧ response.body = .ok data ∧
        (Digest.of? (Digest.algorithm access.digest) data = some access.digest ∨
          Digest.algorithm access.digest ≠ "sha256" ∧ Digest.algorithm access.digest ≠ "sha512")) := by
  obtain ⟨digest, sound, checked⟩ := Remote.resolve_digest resolved
  refine ⟨Digest.algorithm_stem sound checked, ?_⟩
  rw [fetch_ok_iff]
  simp only [accept_ok_iff, digest, verify_ok_iff]

end

/-- A layer that has its digest is fetched, and only that. -/
theorem hashed_layer_fetched :
    Remote.resolve Example.hashed "1" = .ok (Example.remote Example.hashed) ∧
    ((fetch Example.serving (Example.remote Example.hashed) .http).run ()).1 = .ok Example.layer ∧
    Digest.of? (Digest.algorithm Example.hashed.digest) Example.layer = some Example.hashed.digest := by
  have fits : verify Example.hashed.digest Example.layer = .ok () := by
    rw [verify_ok_iff, Example.algorithm_hashed]
    exact .inl Example.of?_layer
  have fetched := Example.fetch_serving Example.url_hashed fits
  refine ⟨Example.resolve_hashed, fetched, ?_⟩
  obtain ⟨-, told⟩ := fetch_resolved_iff Example.serving (Example.remote Example.hashed) .http ()
    Example.resolve_hashed Example.layer
  obtain ⟨_, _, _, _, _, _, computed | ⟨uncomputed, _⟩⟩ := told.mp fetched
  · exact computed
  · exact absurd Example.algorithm_hashed uncomputed

end Layer
end Stowage
