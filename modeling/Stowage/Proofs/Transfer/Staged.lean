import Stowage.Proofs.Layer
import Stowage.Proofs.Transfer.Course

/-! What a transfer has done by the time it ends. It asks for a layer only once it knows what to ask for and
where to put it, and it publishes only what was fetched and verified. -/
namespace Stowage

theorem Identity.decorate_ok {i : Identity} {request decorated : Http.Request}
    (h : i.decorate request = .ok decorated) :
    decorated.method = request.method ∧ decorated.url = request.url := by
  unfold Identity.decorate at h
  cases set : setAll request.headers i.headers with
  | error header =>
    rw [set] at h
    cases h
  | ok headers =>
    rw [set] at h
    cases h
    exact ⟨rfl, rfl⟩

/-- An image is the layer with what it is told by, which is computed from what the layer is uncompressed. -/
theorem Image.ofLayer_cases {data : Bytes} {digest : String} {stamp : Stamp} {image : Image}
    (h : Image.ofLayer data digest stamp = .ok image) :
    ∃ diffId, image =
      { layer := ⟨data, if Gzip.isGzip data then gzipMediaType else tarMediaType, digest, diffId⟩
        config := configDocument stamp.created diffId
        annotations := stamp.annotations } ∧
      ((∃ content, Gzip.isGzip data = true ∧ Gzip.decompress data = .ok content ∧
          diffId = Digest.sha256Text content) ∨
        Gzip.isGzip data = false ∧ diffId = plainDiffId data digest) := by
  unfold Image.ofLayer at h
  dsimp only at h
  cases zipped : Gzip.isGzip data with
  | true =>
    rw [if_pos zipped] at h
    cases inflated : Gzip.decompress data with
    | error cause =>
      rw [inflated] at h
      cases h
    | ok content =>
      rw [inflated, if_pos zipped] at h
      cases h
      exact ⟨_, rfl, .inl ⟨content, rfl, rfl, rfl⟩⟩
  | false =>
    rw [zipped] at h
    cases h
    exact ⟨_, rfl, .inr ⟨rfl, rfl⟩⟩

/-- The layer of an image is the data that it was made of, and the annotations are those of the stamp. -/
theorem Image.ofLayer_ok {data : Bytes} {digest : String} {stamp : Stamp} {image : Image}
    (h : Image.ofLayer data digest stamp = .ok image) :
    image.layer.data = data ∧ image.layer.digest = digest ∧ image.annotations = stamp.annotations := by
  obtain ⟨_, rfl, -⟩ := ofLayer_cases h
  exact ⟨rfl, rfl, rfl⟩

def proxies (history : List Deed) : List String :=
  history.filterMap fun
    | ⟨.connect proxy, _⟩ => some proxy
    | _ => none

def requests (history : List Deed) : List Http.Request :=
  history.filterMap fun
    | ⟨.execute request, _⟩ => some request
    | _ => none

def publications (history : List Deed) : List (Reference × Image) :=
  history.filterMap fun
    | ⟨.publish target image, _⟩ => some (target, image)
    | _ => none

namespace Transfer

variable (registry : String) (scheme : Scheme) (destination : String) (entry : ResourceEntry)

/-- What stands behind an image by the time that it is published. -/
structure Sound (done : List Deed) (access : GlobalAccess) (p : Plan) (image : Image) : Prop where
  planned : Planned destination entry access p
  connected : ⟨.connect registry, .ok ()⟩ ∈ done
  /-- The layer is the body of the response to the one request, byte for byte. -/
  fetched : ∃ url request response, Requested scheme p url request ∧
    ⟨.execute request, .ok response⟩ ∈ done ∧ Layer.Accepted access.digest response image.layer.data
  /-- The layer has its digest, if that is of an algorithm that is computed. -/
  hashed : Digest.algorithm access.digest = "sha256" ∨ Digest.algorithm access.digest = "sha512" →
    Digest.of? (Digest.algorithm access.digest) image.layer.data = some access.digest
  assembled : ∃ created, ⟨.now, created⟩ ∈ done ∧
    Image.ofLayer image.layer.data access.digest ⟨created, destination⟩ = .ok image
  named : image.annotations.lookup "org.opencontainers.image.ref.name" = some destination

variable {registry scheme destination entry}

/-- A request is a plain one for the layer. -/
theorem Requested.get {p : Plan} {url : Url} {request : Http.Request}
    (requested : Requested scheme p url request) :
    request.method = "GET" ∧ Url.read (p.remote.blobUrl scheme) = .ok request.url := by
  obtain ⟨method, whole⟩ := Identity.decorate_ok requested.decorated
  refine ⟨method, ?_⟩
  rw [whole]
  exact requested.located

theorem Planned.digest_eq {access : GlobalAccess} {p : Plan}
    (planned : Planned destination entry access p) : p.remote.digest = access.digest :=
  (Remote.resolve_digest planned.resolved).1

/-- An image of an accepted layer is sound. -/
theorem sound_of_accepted {access : GlobalAccess} {p : Plan} {url : Url} {request : Http.Request}
    {response : Http.Response} {data : Bytes} {created : Moment} {image : Image} {done : List Deed}
    (planned : Planned destination entry access p) (requested : Requested scheme p url request)
    (accepted : Layer.Accepted p.remote.digest response data)
    (assembled : Image.ofLayer data p.remote.digest ⟨created, destination⟩ = .ok image)
    (before : [⟨.connect registry, .ok ()⟩, ⟨.execute request, .ok response⟩, ⟨.now, created⟩] <+: done) :
    Sound registry scheme destination entry done access p image := by
  rw [planned.digest_eq] at accepted assembled
  obtain ⟨rfl, -, stamped⟩ := Image.ofLayer_ok assembled
  refine ⟨planned, before.subset (by simp), ⟨url, request, response, requested, before.subset (by simp),
    accepted⟩, fun computed => ?_, ⟨created, before.subset (by simp), assembled⟩, ?_⟩
  · rcases Layer.verify_ok_iff.mp accepted.verified with fits | ⟨notShort, notLong⟩
    · exact fits
    · exact (computed.elim notShort notLong).elim
  · rw [stamped]
    rfl

section

variable {result : Except TransferFault TransferReport} {done : List Deed}

/-- A transfer without a plan does nothing, and any other connects to the registry alone. -/
theorem Course.planned (course : Course registry scheme destination entry result done) :
    done = [] ∨ proxies done = [registry] ∧ ∃ access p, Planned destination entry access p := by
  cases course with
  | unplanned => exact .inl rfl
  | unconnected _ planned => exact .inr ⟨rfl, _, _, planned⟩
  | unlocated _ planned => exact .inr ⟨rfl, _, _, planned⟩
  | undecorated _ _ planned => exact .inr ⟨rfl, _, _, planned⟩
  | unanswered _ planned => exact .inr ⟨rfl, _, _, planned⟩
  | refused _ planned => exact .inr ⟨rfl, _, _, planned⟩
  | unassembled _ _ _ _ planned => exact .inr ⟨rfl, _, _, planned⟩
  | unpublished _ _ _ _ _ planned => exact .inr ⟨rfl, _, _, planned⟩
  | completed _ _ _ _ _ planned => exact .inr ⟨rfl, _, _, planned⟩

/-- At most one request is made, to the registry that was connected to. -/
theorem Course.requested (course : Course registry scheme destination entry result done) :
    requests done = [] ∨
      ∃ access p url request rest, Planned destination entry access p ∧ Requested scheme p url request ∧
        done = ⟨.connect registry, .ok ()⟩ :: rest ∧ requests done = [request] := by
  cases course with
  | unplanned | unconnected | unlocated | undecorated => exact .inl rfl
  | unanswered _ planned requested => exact .inr ⟨_, _, _, _, _, planned, requested, rfl, rfl⟩
  | refused _ planned requested => exact .inr ⟨_, _, _, _, _, planned, requested, rfl, rfl⟩
  | unassembled _ _ _ _ planned requested => exact .inr ⟨_, _, _, _, _, planned, requested, rfl, rfl⟩
  | unpublished _ _ _ _ _ planned requested => exact .inr ⟨_, _, _, _, _, planned, requested, rfl, rfl⟩
  | completed _ _ _ _ _ planned requested => exact .inr ⟨_, _, _, _, _, planned, requested, rfl, rfl⟩

/-- At most one image is published, a sound one. -/
theorem Course.published (course : Course registry scheme destination entry result done) :
    publications done = [] ∨
      ∃ access p image, publications done = [(p.target, image)] ∧
        Sound registry scheme destination entry done access p image := by
  cases course with
  | unplanned | unconnected | unlocated | undecorated | unanswered | refused | unassembled => exact .inl rfl
  | unpublished _ _ _ _ _ planned requested accepted assembled =>
    exact .inr ⟨_, _, _, rfl,
      sound_of_accepted planned requested accepted assembled (List.prefix_append _ [_])⟩
  | completed _ _ _ _ _ planned requested accepted assembled =>
    exact .inr ⟨_, _, _, rfl,
      sound_of_accepted planned requested accepted assembled (List.prefix_append _ [_])⟩

/-- A report is of a sound image and of what its publication came to. -/
theorem Course.reported {report : TransferReport}
    (course : Course registry scheme destination entry (.ok report) done) :
    ∃ access p image, Sound registry scheme destination entry done access p image ∧
      ⟨.publish p.target image, .ok report.manifestUrl⟩ ∈ done ∧
      report = { remote := access.pinned entry.version, destination, layerDigest := access.digest
                 bytes := image.layer.data.length, manifestUrl := report.manifestUrl } := by
  cases course with
  | completed _ _ _ _ _ planned requested accepted assembled =>
    refine ⟨_, _, _,
      sound_of_accepted planned requested accepted assembled (List.prefix_append _ [_]), by simp, ?_⟩
    obtain ⟨whole, digest, -⟩ := Image.ofLayer_ok assembled
    rw [digest, whole, planned.digest_eq, Remote.resolve_canonical planned.resolved]

end

variable (registry scheme destination entry)
variable {σ : Type} (answer : (e : Errand) → σ → e.Answer × σ) (s : σ)

/-- The result of a transfer is that of its first stage that fails. Nothing is done without a plan; at most one
request is made, through the registry, for the layer; at most one image is published, of the layer that came
and was verified; and a report tells of just that. -/
theorem acts_in_order :
    let transfer := run registry scheme destination entry
    let result := (transfer.run answer s).1
    let done := deeds (transfer.history answer s)
    Course registry scheme destination entry result done ∧
    (done = [] ∨ proxies done = [registry] ∧ ∃ access p, Planned destination entry access p) ∧
    (requests done = [] ∨
      ∃ access p request rest, Planned destination entry access p ∧
        done = ⟨.connect registry, .ok ()⟩ :: rest ∧ requests done = [request] ∧
        request.method = "GET" ∧ Url.read (p.remote.blobUrl scheme) = .ok request.url) ∧
    (publications done = [] ∨
      ∃ access p image, publications done = [(p.target, image)] ∧
        Sound registry scheme destination entry done access p image) ∧
    (∀ report, result = .ok report →
      ∃ access p image, Sound registry scheme destination entry done access p image ∧
        ⟨.publish p.target image, .ok report.manifestUrl⟩ ∈ done ∧
        report = { remote := access.pinned entry.version, destination, layerDigest := access.digest
                   bytes := image.layer.data.length, manifestUrl := report.manifestUrl }) := by
  dsimp only
  have course := run_course registry scheme destination entry answer s
  refine ⟨course, course.planned, ?_, course.published, fun report success => ?_⟩
  · obtain silent | ⟨access, p, url, request, rest, planned, requested, connected, alone⟩ := course.requested
    · exact .inl silent
    · exact .inr ⟨access, p, request, rest, planned, connected, alone, requested.get⟩
  · rw [success] at course
    exact course.reported

end Transfer

namespace Example

def entry : ResourceEntry where
  name := "app"
  version := "1"
  access := Access.document hashed

/-- Connects to any registry, answers any request with the layer, and publishes any image. -/
def obliging : (e : Errand) → Unit → e.Answer × Unit
  | .connect _, _ => (.ok (), ())
  | .execute _, _ => (.ok { status := 200, body := .ok layer }, ())
  | .now, _ => (⟨0, 0⟩, ())
  | .publish .., _ => (.ok "http://registry:5000/v2/snapshots/app/manifests/1", ())
  | .record _, _ => ((), ())

def shipment : Errands (Except TransferFault TransferReport) :=
  Transfer.run "registry:5000" .http "registry:5000/snapshots/app:1" entry

end Example

set_option maxRecDepth 10000 in
/-- A transfer that goes through publishes the layer that was served. -/
theorem Transfer.acts_in_order_to_the_end :
    (publications (deeds (Example.shipment.history Example.obliging ()))).map (·.2.layer.data) =
        [Example.layer] ∧
      ∃ report access p image, (Example.shipment.run Example.obliging ()).1 = .ok report ∧
        Sound "registry:5000" .http "registry:5000/snapshots/app:1" Example.entry
          (deeds (Example.shipment.history Example.obliging ())) access p image ∧
        report.bytes = image.layer.data.length := by
  have published : (publications (deeds (Example.shipment.history Example.obliging ()))).map
      (·.2.layer.data) = [Example.layer] ∧
      (Example.shipment.run Example.obliging ()).1.toOption.isSome = true := by decide +kernel
  refine ⟨published.1, ?_⟩
  obtain ⟨-, -, -, -, reported⟩ := acts_in_order "registry:5000" .http "registry:5000/snapshots/app:1"
    Example.entry Example.obliging ()
  cases ended : (Example.shipment.run Example.obliging ()).1 with
  | error fault =>
    rw [ended] at published
    cases published.2
  | ok report =>
    obtain ⟨access, p, image, sound, -, told⟩ := reported report ended
    exact ⟨report, access, p, image, rfl, sound, by rw [told]⟩

end Stowage
