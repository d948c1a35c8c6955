import Stowage.Proofs.Decorated

/-! Transports that put an identity on within others that do so. What the inner one says stands, and the outer one is
heard where the inner one says nothing: both together are one transport with the identity made of both. -/
namespace Stowage

namespace Http

/-- Requests that ask the same: every header has the same values in the same order. Which of two headers is put
first is not looked at. -/
structure Request.Alike (r s : Request) : Prop where
  method : r.method = s.method
  url : r.url = s.url
  body : r.body = s.body
  values : ∀ name, r.headers.values name = s.headers.values name

namespace Headers

/-- Fields of different names go to the end, in place of all that their names had. -/
theorem setEach_eq {fields : Headers} (distinct : (fields.map (·.1)).Nodup) (hs : Headers) :
    setEach hs fields = hs.filter (fun field => decide (field.1 ∉ fields.map (·.1))) ++ fields := by
  induction fields generalizing hs with
  | nil => simp [setEach]
  | cons first fields ih =>
    obtain ⟨name, value⟩ := first
    rw [List.map_cons, List.nodup_cons] at distinct
    have kept : (name, value).1 ∉ fields.map (·.1) := distinct.1
    rw [setEach_cons, ih distinct.2, set, List.filter_append, List.filter_filter,
      List.filter_singleton, decide_eq_true kept, List.append_assoc]
    congr 2
    funext field
    rw [Bool.eq_iff_iff]
    simp only [Bool.and_eq_true, decide_eq_true_eq, List.map_cons, List.mem_cons, not_or, and_comm]

/-- Fields that are set are not changed when they are set again. -/
theorem setEach_setEach {fields : Headers} (distinct : (fields.map (·.1)).Nodup) (hs : Headers) :
    setEach (setEach hs fields) fields = setEach hs fields := by
  have none : fields.filter (fun field => decide (field.1 ∉ fields.map (·.1))) = [] := by
    refine List.filter_eq_nil_iff.mpr fun field member => ?_
    simpa using ⟨field.2, member⟩
  rw [setEach_eq distinct hs, setEach_eq distinct, List.filter_append, List.filter_filter, none]
  simp

end Headers
end Http

namespace Identity

open Http

/-- The fields of the inner identity, and those of the outer one that the inner one does not set. -/
def within (inner outer : Identity) : Identity where
  digest := inner.digest.or outer.digest
  registry := inner.registry.or outer.registry
  repository := inner.repository.or outer.repository
  tag := inner.tag.or outer.tag
  image := inner.image.or outer.image

variable {i inner outer : Identity} {r s t : Request}

theorem value?_within (inner outer : Identity) (key : String) :
    (inner.within outer).value? key = (inner.value? key).or (outer.value? key) := by
  simp only [value?]
  split_ifs <;> rfl

theorem Valid.within (innerValid : inner.Valid) (outerValid : outer.Valid) : (inner.within outer).Valid := by
  intro key value given
  rw [value?_within] at given
  rcases Option.or_eq_some_iff.mp given with own | ⟨-, other⟩
  · exact innerValid key value own
  · exact outerValid key value other

theorem valid_of_headers (valid : ∀ field ∈ i.headers, isHeaderValue field.2 = true) : i.Valid :=
  fun key value given => valid ("x-" ++ key, value) (mem_headers_iff.mpr ⟨key, given, rfl⟩)

/-- What is decorated with the outer identity, and then with the inner one, is decorated with both. -/
theorem Decorated.within (first : outer.Decorated r s) (second : inner.Decorated s t) :
    (inner.within outer).Decorated r t where
  method := second.method.trans first.method
  url := second.url.trans first.url
  body := second.body.trans first.body
  present key value given := by
    rw [value?_within] at given
    rcases Option.or_eq_some_iff.mp given with own | ⟨unset, other⟩
    · exact second.present key value own
    · rw [second.absent key unset, first.present key value other]
  absent key unset := by
    rw [value?_within] at unset
    obtain ⟨own, other⟩ := Option.or_eq_none_iff.mp unset
    rw [second.absent key own, first.absent key other]
  other name apart := (second.other name apart).trans (first.other name apart)
  lower named := second.lower (first.lower named)

/-- There is one way only to decorate a request with an identity. -/
theorem Decorated.alike (first : i.Decorated r s) (second : i.Decorated r t) : s.Alike t where
  method := first.method.trans second.method.symm
  url := first.url.trans second.url.symm
  body := first.body.trans second.body.symm
  values name := by
    by_cases named : ∃ key, name = "x-" ++ key
    · obtain ⟨key, rfl⟩ := named
      cases given : i.value? key with
      | none => rw [first.absent key given, second.absent key given]
      | some value => rw [first.present key value given, second.present key value given]
    · have apart : ∀ key, name ≠ "x-" ++ key := fun key same => named ⟨key, same⟩
      rw [first.other name apart, second.other name apart]

section Transports

variable {m : Type → Type} [Monad m]

theorem decorated_of_valid (valid : i.Valid) (base : Transport m) (r : Request) :
    i.decorated base r = base { r with headers := r.headers.setEach i.headers } := by
  rw [decorated, decorate_of_valid valid]

/-- The same identity within itself is the identity once, to the very order of the headers. -/
theorem decorated_decorated (i : Identity) (base : Transport m) :
    i.decorated (i.decorated base) = i.decorated base := by
  funext r
  obtain valid | ⟨key, value, bad⟩ := i.valid_or_firstInvalid
  · rw [decorated_of_valid valid, decorated_of_valid valid, decorated_of_valid valid]
    rw [Headers.setEach_setEach i.headers_distinct]
  · rw [decorated, decorated, decorate_of_firstInvalid bad]

end Transports

/-- A valid identity within another is as the one made of both: whatever transport is at the bottom, both ways it is
given requests that are alike, and its answer is the answer. So one that answers alike requests alike gives the same
answer both ways. The same identity within itself is as that identity once, whether valid or not. -/
theorem nested_as_one (r : Request) :
    (∀ inner outer : Identity, inner.Valid → outer.Valid → ∃ nested once : Request, nested.Alike once ∧
      ∀ {m : Type → Type} [Monad m] (base : Transport m),
        outer.decorated (inner.decorated base) r = base nested ∧
        (inner.within outer).decorated base r = base once ∧
        ((∀ s t : Request, s.Alike t → base s = base t) →
          outer.decorated (inner.decorated base) r = (inner.within outer).decorated base r)) ∧
    ∀ (i : Identity) {m : Type → Type} [Monad m] (base : Transport m),
      i.decorated (i.decorated base) r = i.decorated base r := by
  refine ⟨fun inner outer innerValid outerValid => ?_, fun i _ _ base => by rw [decorated_decorated]⟩
  have first := decorated_setEach outer r
  have second := decorated_setEach inner { r with headers := r.headers.setEach outer.headers }
  have alike := (first.within second).alike (decorated_setEach (inner.within outer) r)
  refine ⟨_, _, alike, fun {m} _ base => ?_⟩
  have nested : outer.decorated (inner.decorated base) r =
      base { r with headers := (r.headers.setEach outer.headers).setEach inner.headers } := by
    rw [decorated_of_valid outerValid, decorated_of_valid innerValid]
  have once := decorated_of_valid (innerValid.within outerValid) base r
  refine ⟨nested, once, fun heeds => ?_⟩
  rw [nested, once]
  exact heeds _ _ alike

end Identity

namespace Example
open Http

def pulled : Identity := { tag := some "1.0.0", image := some "example.com/app@sha256:aa" }

def mirrored : Identity := { registry := some "mirror.local", tag := some "latest" }

def stale : Request where
  url := ⟨"http", some ⟨"", some (.domain "example.com"), none⟩, "/v2/app/blobs/sha256:aa", none, none⟩
  headers := [("x-tag", "0.9.0"), ("accept", "*/*"), ("x-tag", "0.8.0")]

/-- Has one version, and answers only who asks for it and names the mirror. -/
def picky : Transport Id := fun r =>
  let heard := r.headers.values "x-tag" = ["1.0.0"] ∧ r.headers.values "x-registry" = ["mirror.local"]
  .ok { status := if heard then 200 else 404 }

end Example

namespace Identity

open Example in
/-- The pull is heard on its tag, and the mirror on the registry. -/
theorem nested_as_one_over_stale_tags :
    (pulled.Valid ∧ mirrored.Valid ∧ ∀ s t : Http.Request, s.Alike t → picky s = picky t) ∧
    mirrored.decorated (pulled.decorated picky) stale = (pulled.within mirrored).decorated picky stale ∧
    (mirrored.decorated (pulled.decorated picky) stale).run.toOption.map (·.status) = some 200 := by
  have valid : pulled.Valid := valid_of_headers (by decide)
  have valid' : mirrored.Valid := valid_of_headers (by decide)
  have heeds (s t : Http.Request) (alike : s.Alike t) : picky s = picky t := by
    simp only [picky, alike.values]
  obtain ⟨_, _, -, told⟩ := (nested_as_one stale).1 pulled mirrored valid valid'
  exact ⟨⟨valid, valid', heeds⟩, (told picky).2.2 heeds, by decide +kernel⟩

open Example in
/-- The outer identity has to be valid also where it is not heard. -/
example : (({ tag := some "\n" } : Identity).decorate stale).toOption = none ∧
    (pulled.within { tag := some "\n" }) = pulled := by
  decide +kernel

end Identity
end Stowage
