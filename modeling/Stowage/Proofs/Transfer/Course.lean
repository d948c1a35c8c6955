import Stowage.Proofs.Dialogue
import Stowage.Proofs.Layer
import Stowage.Transfer.Basic

/-! The courses that a transfer can take. Each tells the result and what was done until then, and which of the
stages made the transfer stop: the first that fails. -/
namespace Stowage

namespace Layer

/-- Why a response is not accepted: by its status, then by its body, then by the digest of the body. -/
inductive Refused (url : String) (digest : String) (response : Http.Response) : TransferFault → Prop
  | status (failed : response.isSuccess = false) : Refused url digest response (.status url response.status)
  | body (reason : String) (success : response.isSuccess = true)
      (broken : response.body = .error reason) : Refused url digest response (.body url reason)
  | digest (data : Bytes) (actual : String) (success : response.isSuccess = true)
      (whole : response.body = .ok data)
      (computed : Digest.of? (Digest.algorithm digest) data = some actual) (differ : actual ≠ digest) :
    Refused url digest response (.digestMismatch digest actual)

/-- Why data of a response is accepted. -/
structure Accepted (digest : String) (response : Http.Response) (data : Bytes) : Prop where
  success : response.isSuccess = true
  whole : response.body = .ok data
  verified : verify digest data = .ok ()

/-- Data that has another digest is told with both. -/
theorem verify_error {expected : String} {data : Bytes} {fault : TransferFault}
    (h : verify expected data = .error fault) :
    ∃ actual, Digest.of? (Digest.algorithm expected) data = some actual ∧ actual ≠ expected ∧
      fault = .digestMismatch expected actual := by
  unfold verify at h
  split at h
  next actual computed =>
    split at h
    · cases h
    next differ =>
      cases h
      exact ⟨actual, computed, differ, rfl⟩
  next => cases h

theorem accept_cases (url : String) (remote : Remote) (response : Http.Response) :
    (∃ fault, accept url remote response = .error fault ∧ Refused url remote.digest response fault) ∨
      ∃ data, accept url remote response = .ok data ∧ Accepted remote.digest response data := by
  unfold accept
  cases success : response.isSuccess with
  | false => exact .inl ⟨_, rfl, .status success⟩
  | true =>
    cases whole : response.body with
    | error reason => exact .inl ⟨_, rfl, .body reason success whole⟩
    | ok data =>
      cases verified : verify remote.digest data with
      | error fault =>
        obtain ⟨actual, computed, differ, rfl⟩ := verify_error verified
        refine .inl ⟨_, ?_, .digest data actual success whole computed differ⟩
        simp [verified, bind, Except.bind, Except.mapError]
      | ok _ =>
        refine .inr ⟨data, ?_, success, whole, verified⟩
        simp [verified, bind, Except.bind, Except.mapError, pure, Except.pure]

end Layer

abbrev Deed := Σ e : Errand, e.Answer

/-- Counting and measuring change nothing for anyone. -/
def Errand.acts : Errand → Bool
  | record _ => false
  | connect _ | execute _ | now | publish .. => true

def deeds (history : List Deed) : List Deed := history.filter (·.1.acts)

@[simp] theorem deeds_nil : deeds [] = [] := rfl

@[simp] theorem deeds_record (m : Meter) (told : Unit) (history : List Deed) :
    deeds (⟨.record m, told⟩ :: history) = deeds history := rfl

@[simp] theorem deeds_append (first second : List Deed) :
    deeds (first ++ second) = deeds first ++ deeds second := List.filter_append first second

namespace Transfer

/-- Why nothing is done: by the access document, then by the remote, then by the destination. -/
inductive Unplanned (destination : String) (entry : ResourceEntry) : TransferFault → Prop
  | access (cause : Access.Malformed) (unread : Access.read entry.access = .error cause) :
    Unplanned destination entry (.access cause)
  | remote (access : GlobalAccess) (cause : InvalidReference)
      (read : Access.read entry.access = .ok access)
      (unresolved : Remote.resolve access entry.version = .error cause) :
    Unplanned destination entry (.reference cause)
  | destination (access : GlobalAccess) (remote : Remote) (cause : InvalidReference)
      (read : Access.read entry.access = .ok access)
      (resolved : Remote.resolve access entry.version = .ok remote)
      (unparsed : Reference.parse destination = .error cause) :
    Unplanned destination entry (.reference cause)

/-- Where a plan comes from. -/
structure Planned (destination : String) (entry : ResourceEntry) (access : GlobalAccess) (p : Plan) :
    Prop where
  read : Access.read entry.access = .ok access
  resolved : Remote.resolve access entry.version = .ok p.remote
  parsed : Reference.parse destination = .ok p.target

theorem plan_cases (destination : String) (entry : ResourceEntry) :
    (∃ fault, plan destination entry = .error fault ∧ Unplanned destination entry fault) ∨
      ∃ access p, plan destination entry = .ok p ∧ Planned destination entry access p := by
  unfold plan
  cases read : Access.read entry.access with
  | error cause => exact .inl ⟨_, rfl, .access cause read⟩
  | ok access =>
    cases resolved : Remote.resolve access entry.version with
    | error cause =>
      refine .inl ⟨.reference cause, ?_, .remote access cause read resolved⟩
      simp [resolved, bind, Except.bind, Except.mapError]
    | ok remote =>
      cases parsed : Reference.parse destination with
      | error cause =>
        refine .inl ⟨.reference cause, ?_, .destination access remote cause read resolved parsed⟩
        simp [resolved, bind, Except.bind, Except.mapError]
      | ok target =>
        refine .inr ⟨access, ⟨remote, target⟩, ?_, read, resolved, parsed⟩
        simp [resolved, bind, Except.bind, Except.mapError, pure, Except.pure]

structure Requested (scheme : Scheme) (p : Plan) (url : Url) (request : Http.Request) : Prop where
  located : Url.read (p.remote.blobUrl scheme) = .ok url
  decorated : p.remote.identity.decorate { url } = .ok request

variable (registry : String) (scheme : Scheme) (destination : String) (entry : ResourceEntry)

/-- The result of a transfer and what it did. -/
inductive Course : Except TransferFault TransferReport → List Deed → Prop
  | unplanned {fault : TransferFault} (stopped : Unplanned destination entry fault) :
    Course (.error fault) []
  | unconnected {access : GlobalAccess} {p : Plan} (fault : TransportFault)
      (planned : Planned destination entry access p) :
    Course (.error (.transport fault)) [⟨.connect registry, .error fault⟩]
  | unlocated {access : GlobalAccess} {p : Plan} (cause : UrlFault)
      (planned : Planned destination entry access p)
      (unread : Url.read (p.remote.blobUrl scheme) = .error cause) :
    Course (.error (.reference ⟨p.remote.canonical, cause.message⟩)) [⟨.connect registry, .ok ()⟩]
  | undecorated {access : GlobalAccess} {p : Plan} (url : Url) (header : InvalidHeader)
      (planned : Planned destination entry access p)
      (located : Url.read (p.remote.blobUrl scheme) = .ok url)
      (invalid : p.remote.identity.decorate { url } = .error header) :
    Course (.error (.transport (.invalidHeader header))) [⟨.connect registry, .ok ()⟩]
  | unanswered {access : GlobalAccess} {p : Plan} {url : Url} {request : Http.Request}
      (fault : TransportFault) (planned : Planned destination entry access p)
      (requested : Requested scheme p url request) :
    Course (.error (.transport fault)) [⟨.connect registry, .ok ()⟩, ⟨.execute request, .error fault⟩]
  | refused {access : GlobalAccess} {p : Plan} {url : Url} {request : Http.Request}
      {fault : TransferFault} (response : Http.Response) (planned : Planned destination entry access p)
      (requested : Requested scheme p url request)
      (stopped : Layer.Refused (p.remote.blobUrl scheme) p.remote.digest response fault) :
    Course (.error fault) [⟨.connect registry, .ok ()⟩, ⟨.execute request, .ok response⟩]
  | unassembled {access : GlobalAccess} {p : Plan} {url : Url} {request : Http.Request}
      (response : Http.Response) (data : Bytes) (created : Moment) (cause : Gzip.Fault)
      (planned : Planned destination entry access p) (requested : Requested scheme p url request)
      (accepted : Layer.Accepted p.remote.digest response data)
      (broken : Image.ofLayer data p.remote.digest ⟨created, destination⟩ = .error cause) :
    Course (.error (.assemble cause))
      [⟨.connect registry, .ok ()⟩, ⟨.execute request, .ok response⟩, ⟨.now, created⟩]
  | unpublished {access : GlobalAccess} {p : Plan} {url : Url} {request : Http.Request}
      (response : Http.Response) (data : Bytes) (created : Moment) (image : Image)
      (fault : TransferFault) (planned : Planned destination entry access p)
      (requested : Requested scheme p url request)
      (accepted : Layer.Accepted p.remote.digest response data)
      (assembled : Image.ofLayer data p.remote.digest ⟨created, destination⟩ = .ok image) :
    Course (.error fault)
      [⟨.connect registry, .ok ()⟩, ⟨.execute request, .ok response⟩, ⟨.now, created⟩,
        ⟨.publish p.target image, .error fault⟩]
  | completed {access : GlobalAccess} {p : Plan} {url : Url} {request : Http.Request}
      (response : Http.Response) (data : Bytes) (created : Moment) (image : Image) (manifestUrl : String)
      (planned : Planned destination entry access p) (requested : Requested scheme p url request)
      (accepted : Layer.Accepted p.remote.digest response data)
      (assembled : Image.ofLayer data p.remote.digest ⟨created, destination⟩ = .ok image) :
    Course
      (.ok { remote := p.remote.canonical, destination, layerDigest := image.layer.digest
             bytes := data.length, manifestUrl })
      [⟨.connect registry, .ok ()⟩, ⟨.execute request, .ok response⟩, ⟨.now, created⟩,
        ⟨.publish p.target image, .ok manifestUrl⟩]

variable {σ : Type} (answer : (e : Errand) → σ → e.Answer × σ) (s : σ)

theorem deliver_course {access : GlobalAccess} {p : Plan} {url : Url} {request : Http.Request}
    {response : Http.Response} {data : Bytes} (planned : Planned destination entry access p)
    (requested : Requested scheme p url request)
    (accepted : Layer.Accepted p.remote.digest response data) :
    Course registry scheme destination entry ((deliver destination p data).run answer s).1
      (⟨.connect registry, .ok ()⟩ :: ⟨.execute request, .ok response⟩ ::
        (deliver destination p data).history answer s) := by
  rw [deliver]
  simp only [Errand.ask, Dialogue.question, Dialogue.bind_eq, Dialogue.bind_ask, Dialogue.bind_done,
    Dialogue.run_ask, Dialogue.history_ask]
  generalize answer .now s = told
  obtain ⟨created, s⟩ := told
  cases assembled : Image.ofLayer data p.remote.digest ⟨created, destination⟩ with
  | error cause => exact .unassembled response data created cause planned requested accepted assembled
  | ok image =>
    simp only [Dialogue.pure_eq, Dialogue.run_ask, Dialogue.history_ask, Dialogue.run_done,
      Dialogue.history_done]
    generalize answer (.publish p.target image) s = told
    obtain ⟨fault | manifestUrl, s⟩ := told
    · exact .unpublished response data created image fault planned requested accepted assembled
    · exact .completed response data created image manifestUrl planned requested accepted assembled

theorem stages_course :
    Course registry scheme destination entry ((stages registry scheme destination entry).run answer s).1
      ((stages registry scheme destination entry).history answer s) := by
  -- Every answer and every pure stage is split in turn, and its failure is one of the courses.
  unfold stages
  obtain ⟨fault, unplanned, stopped⟩ | ⟨access, p, written, planned⟩ := plan_cases destination entry
  · rw [unplanned]
    exact .unplanned stopped
  rw [written]
  simp only [Errand.ask, Dialogue.question, Dialogue.bind_eq, Dialogue.bind_ask, Dialogue.bind_done,
    Dialogue.run_ask, Dialogue.history_ask]
  generalize answer (.connect registry) s = told
  obtain ⟨fault | ⟨⟩, s⟩ := told
  · exact .unconnected fault planned
  dsimp only [Layer.fetch]
  cases located : Url.read (p.remote.blobUrl scheme) with
  | error cause => exact .unlocated cause planned located
  | ok url =>
    dsimp only [Identity.decorated]
    cases decorated : p.remote.identity.decorate { url } with
    | error header => exact .undecorated url header planned located decorated
    | ok request =>
      have requested : Requested scheme p url request := ⟨located, decorated⟩
      simp only [send, Errand.ask, Dialogue.question, Dialogue.bind_eq, Dialogue.bind_ask,
        Dialogue.bind_done, Dialogue.run_ask, Dialogue.history_ask]
      generalize answer (.execute request) s = told
      obtain ⟨fault | response, s⟩ := told
      · exact .unanswered fault planned requested
      dsimp only
      obtain ⟨fault, refusal, stopped⟩ | ⟨data, admitted, accepted⟩ :=
        Layer.accept_cases (p.remote.blobUrl scheme) p.remote response
      · simp only [refusal, Dialogue.pure_eq, Dialogue.bind_done]
        exact .refused response planned requested stopped
      · simp only [admitted, Dialogue.pure_eq, Dialogue.bind_done]
        exact deliver_course registry scheme destination entry answer s planned requested accepted

/-- Nothing is counted or measured between the stages. -/
theorem Course.deeds_eq {result : Except TransferFault TransferReport} {history : List Deed}
    (course : Course registry scheme destination entry result history) : deeds history = history := by
  cases course <;> rfl

/-- Counting and measuring leave the result as it is. -/
theorem run_course :
    Course registry scheme destination entry ((run registry scheme destination entry).run answer s).1
      (deeds ((run registry scheme destination entry).history answer s)) := by
  have course := stages_course registry scheme destination entry answer (answer (.record .transfers) s).2
  simp only [run, record, Errand.ask, Dialogue.question, Dialogue.bind_eq, Dialogue.bind_ask,
    Dialogue.bind_done, Dialogue.run_ask, Dialogue.history_ask, Dialogue.run_bind,
    Dialogue.history_bind, deeds_record, deeds_append, course.deeds_eq]
  revert course
  generalize ((stages registry scheme destination entry).run answer (answer (.record .transfers) s).2).1 =
    result
  intro course
  cases result with
  | error fault => simpa using course
  | ok report => simpa using course

end Transfer
end Stowage
