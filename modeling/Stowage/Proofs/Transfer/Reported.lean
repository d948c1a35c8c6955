import Stowage.Proofs.Push
import Stowage.Proofs.Transfer.Content

/-! What a report says of the layer that was stored. The manifest names a layer by what it hashes to, the report by
the digest that it was asked for under; they are the same where that digest is of the algorithm of manifests. -/
namespace Stowage

theorem Digest.algorithm_sha256Text (data : Bytes) : algorithm (sha256Text data) = "sha256" := by
  have start : "sha256".toList ++ [':'] <+: (sha256Text data).toList := by
    rw [sha256Text, String.toList_append]
    exact List.prefix_append _ _
  exact algorithm_of_prefix (by decide) start

/-- A digest that was verified is the one that a manifest gives if it is of the same algorithm. -/
theorem Layer.verified_iff_algorithm {digest : String} {data : Bytes} (verified : verify digest data = .ok ()) :
    digest = Digest.sha256Text data ↔ Digest.algorithm digest = "sha256" := by
  constructor
  · intro same
    rw [same]
    exact Digest.algorithm_sha256Text data
  · intro short
    rcases verify_ok_iff.mp verified with computed | ⟨other, -⟩
    · rw [short] at computed
      exact (Option.some.inj computed).symm
    · exact absurd short other

theorem mem_of_deeds_eq {history done : List Deed} (all : deeds history = done) {d : Deed} (member : d ∈ done) :
    d ∈ history := by
  rw [← all] at member
  exact (List.mem_filter.mp member).1

/-- Counting and measuring aside, a history has just the deeds. -/
theorem deeds_eq_append {history : List Deed} {deed : Deed} {earlier : List Deed}
    (done : deeds history = earlier ++ [deed]) :
    ∃ before after, history = before ++ deed :: after ∧ deeds before = earlier ∧ deeds after = [] := by
  obtain ⟨before, rest, rfl, first, last⟩ := List.filter_eq_append_iff.mp done
  obtain ⟨records, after, rfl, silent, acts, none⟩ := List.filter_eq_cons_iff.mp last
  refine ⟨before ++ records, after, by simp, ?_, none⟩
  have quiet : deeds records = [] := List.filter_eq_nil_iff.mpr silent
  rw [deeds_append, quiet, List.append_nil]
  exact first

namespace Contact

open Dialogue (through)

variable (o : RegistryOptions) (destination : String) (entry : ResourceEntry)

def Quiet (done : List Deed) : Prop := ∀ d ∈ done, (ofErrand o d.1).AsksOnly PutsNone

theorem quiet_of_deeds {history : List Deed} (quiet : Quiet o (deeds history)) : Quiet o history := by
  rintro ⟨e, told⟩ member
  cases acts : e.acts with
  | true => exact quiet _ (List.mem_filter.mpr ⟨member, acts⟩)
  | false =>
    cases e with
    | record => trivial
    | connect | execute | now | publish => simp [Errand.acts] at acts

/-- Up to its publication a transfer puts nothing. -/
theorem quiet_of_get {request : Http.Request} (get : request.method = "GET") (connected : Except TransportFault Unit)
    (response : Except TransportFault Http.Response) (created : Moment) :
    Quiet o [⟨.connect o.address, connected⟩, ⟨.execute request, response⟩, ⟨.now, created⟩] := by
  have other : request.method ≠ "PUT" := by simp [get]
  intro d member
  simp only [List.mem_cons, List.not_mem_nil, or_false] at member
  rcases member with rfl | rfl | rfl
  · trivial
  · exact ⟨Http.Request.putsNone_of_method other, fun _ => trivial⟩
  · exact ⟨trivial, fun _ => trivial⟩

variable {σ : Type} {answer : (c : Contact) → σ → c.Answer × σ} {s : σ}

theorem manifestPuts_quiet {asked : List Deed} {history : List Message}
    (stands : Dialogue.Stands answer (ofErrand o) asked history) (quiet : Quiet o asked) :
    manifestPuts history = [] := by
  apply manifestPuts_eq_nil
  intro e member
  obtain ⟨d, asked, s', told⟩ := stands e member
  exact (quiet d asked).history answer s' e told

/-- What stands behind a report: the one manifest that was put, and the image that it is of. -/
structure Stored (history : List Message) (access : GlobalAccess) (p : Transfer.Plan) (created : Moment)
    (image : Image) : Prop where
  planned : Transfer.Planned destination entry access p
  /-- The layer is the body of a response to a request for it. -/
  fetched : ∃ request response, request.method = "GET" ∧
    Url.read (p.remote.blobUrl o.pullScheme) = .ok request.url ∧
    ⟨.exchange (Proxy.read o.address).toOption request, .ok response⟩ ∈ history ∧
    response.body = .ok image.layer.data
  verified : Layer.verify access.digest image.layer.data = .ok ()
  stamped : ⟨.now, created⟩ ∈ history
  assembled : Image.ofLayer image.layer.data access.digest ⟨created, destination⟩ = .ok image
  pushed : ∃ url response,
    Url.read ((Push.Target.of o.pushScheme p.target).manifest (Push.Target.of o.pushScheme p.target).name) = .ok url ∧
    response.status = 201 ∧
    ⟨.exchange none (Push.manifestRequest url (.ofImage image)), .ok response⟩ ∈ history ∧
    manifestPuts history = [Push.manifestRequest url (.ofImage image)]

/-- A transfer with one publication that went through has put the manifest of that image, and no other. -/
theorem pushed_of_published {target : Reference} {image : Image} {manifestUrl : String} {earlier : List Deed}
    (done : deeds ((Transfer.run o.address o.pullScheme destination entry).history
      (through answer (ofErrand o)) s) = earlier ++ [⟨.publish target image, .ok manifestUrl⟩])
    (quiet : Quiet o earlier) :
    ∃ url response,
      Url.read ((Push.Target.of o.pushScheme target).manifest (Push.Target.of o.pushScheme target).name) = .ok url ∧
      response.status = 201 ∧
      ⟨.exchange none (Push.manifestRequest url (.ofImage image)), .ok response⟩ ∈
        (transfer o destination entry).history answer s ∧
      manifestPuts ((transfer o destination entry).history answer s) =
        [Push.manifestRequest url (.ofImage image)] := by
  obtain ⟨before, after, whole, first, last⟩ := deeds_eq_append done
  obtain ⟨early, late, s', split, published, ahead, behind⟩ := Dialogue.history_interpret whole
  obtain ⟨url, response, located, stored, member, puts⟩ := Push.run_ok published
  have nothingEarly : manifestPuts early = [] := manifestPuts_quiet o ahead (quiet_of_deeds o (first ▸ quiet))
  have nothingLate : manifestPuts late = [] := by
    refine manifestPuts_quiet o behind (quiet_of_deeds o ?_)
    rw [last]
    simp [Quiet]
  refine ⟨url, response, located, stored, ?_, ?_⟩
  · rw [transfer, split]
    exact List.mem_append_right _ (List.mem_append_left _ member)
  · rw [transfer, split, manifestPuts_append, manifestPuts_append, nothingEarly, nothingLate,
      List.nil_append, List.append_nil]
    exact puts

theorem stored_of_reported {report : TransferReport}
    (reported : ((transfer o destination entry).run answer s).1 = .ok report) :
    ∃ access p created image,
      Stored o destination entry ((transfer o destination entry).history answer s) access p created image ∧
      report.layerDigest = access.digest := by
  have course := Transfer.run_course o.address o.pullScheme destination entry (through answer (ofErrand o)) s
  have ended : ((Transfer.run o.address o.pullScheme destination entry).run (through answer (ofErrand o)) s).1 =
      .ok report := by
    rw [← reported, transfer, Dialogue.run_interpret]
  rw [ended] at course
  generalize done : deeds _ = history at course
  cases course with
  | @completed access p url request response _ created image manifestUrl planned requested accepted assembled =>
    rw [planned.digest_eq] at accepted assembled
    obtain ⟨rfl, digest, -⟩ := Image.ofLayer_ok assembled
    obtain ⟨get, located⟩ := requested.get
    have asked := mem_of_deeds_eq done (List.mem_cons_of_mem _ List.mem_cons_self)
    obtain ⟨s₁, answered, exchanged⟩ := Dialogue.mem_history_interpret asked
    have looked := mem_of_deeds_eq done
      (List.mem_cons_of_mem _ (List.mem_cons_of_mem _ List.mem_cons_self))
    obtain ⟨s₂, told, shown⟩ := Dialogue.mem_history_interpret looked
    refine ⟨access, p, created, image, ⟨planned, ⟨request, response, get, located, ?_, accepted.whole⟩,
      accepted.verified, ?_, assembled, ?_⟩, digest⟩
    · rw [← answered]
      exact exchanged _ List.mem_cons_self
    · rw [← told]
      exact shown _ List.mem_cons_self
    · have published : deeds _ = [_, _, _] ++ [_] := done
      exact pushed_of_published o destination entry published (quiet_of_get o get _ _ _)

/-- The one manifest that a transfer has put by the time that it reports has the layer alone, as it came, and tells
of the image. Its layer is the one that the report names if and only if the digest that was asked for is of the
algorithm of manifests; any other digest that is accepted is reported as it was given. -/
theorem layer_named_iff {report : TransferReport}
    (reported : ((transfer o destination entry).run answer s).1 = .ok report) :
    let history := (transfer o destination entry).history answer s
    ∃ access p created image layer,
      Stored o destination entry history access p created image ∧
      (Manifest.ofImage image).layers = [layer] ∧
      layer.size = image.layer.data.length ∧ layer.mediaType = image.layer.mediaType ∧
      (Manifest.ofImage image).config.digest = image.configDigest ∧
      (Manifest.ofImage image).annotations = Stamp.annotations ⟨created, destination⟩ ∧
      report.layerDigest = access.digest ∧
      (report.layerDigest = layer.digest ↔ Digest.algorithm access.digest = "sha256") := by
  intro history
  obtain ⟨access, p, created, image, stored, named⟩ := stored_of_reported o destination entry reported
  obtain ⟨-, -, annotated⟩ := Image.ofLayer_ok stored.assembled
  refine ⟨access, p, created, image, .ofData image.layer.mediaType image.layer.data, stored, rfl, rfl, rfl, rfl,
    annotated, named, ?_⟩
  rw [named]
  exact Layer.verified_iff_algorithm stored.verified

end Contact

namespace Example

def network : (c : Contact) → Unit → c.Answer × Unit
  | .now, _ => (⟨0, 0⟩, ())
  | .exchange _ r, _ =>
    let status := if r.method = "GET" then 200 else if r.method = "PUT" then 201 else 202
    (.ok { status, headers := [("location", "/v2/snapshots/app/blobs/uploads/1")], body := .ok layer }, ())
  | .cluster _, _ => (Cluster.Reply.failed "unreachable", ())

def registry : RegistryOptions := ⟨"registry:5000", .http, .http, 300⟩

def delivery (entry : ResourceEntry) : Contacts (Except TransferFault TransferReport) :=
  Contact.transfer registry "registry:5000/snapshots/app:1" entry

/-- A digest that is reported comes with a report. -/
theorem reported_of_map {result : Except TransferFault TransferReport} {digest : String}
    (named : result.toOption.map (·.layerDigest) = some digest) :
    ∃ report, result = .ok report ∧ report.layerDigest = digest := by
  cases result with
  | error fault => cases named
  | ok report => exact ⟨report, rfl, Option.some.inj named⟩

set_option maxRecDepth 10000 in
theorem delivery_hashed : ∃ report, ((delivery entry).run network ()).1 = .ok report ∧
    report.layerDigest = hashed.digest := reported_of_map (by decide +kernel)

set_option maxRecDepth 10000 in
theorem delivery_unhashed : ∃ report, ((delivery unhashedEntry).run network ()).1 = .ok report ∧
    report.layerDigest = unhashed.digest := reported_of_map (by decide +kernel)

end Example

namespace Contact

/-- A layer that is asked for under its SHA-256 is reported as the manifest has it. -/
theorem layer_named_of_hashed :
    ∃ report access p created image layer, ((Example.delivery Example.entry).run Example.network ()).1 = .ok report ∧
      Stored Example.registry "registry:5000/snapshots/app:1" Example.entry
        ((Example.delivery Example.entry).history Example.network ()) access p created image ∧
      (Manifest.ofImage image).layers = [layer] ∧ report.layerDigest = layer.digest := by
  obtain ⟨report, reported, digest⟩ := Example.delivery_hashed
  obtain ⟨access, p, created, image, layer, stored, sole, -, -, -, -, named, same⟩ :=
    layer_named_iff Example.registry "registry:5000/snapshots/app:1" Example.entry reported
  refine ⟨report, access, p, created, image, layer, reported, stored, sole, same.mpr ?_⟩
  rw [← named, digest]
  exact Example.algorithm_hashed

/-- A layer that is asked for under a digest of another algorithm is stored under one that is not reported. -/
theorem layer_misnamed :
    ∃ (report : TransferReport) (put : Http.Request) (manifest : Manifest) (layer : Descriptor),
      ((Example.delivery Example.unhashedEntry).run Example.network ()).1 = .ok report ∧
      manifestPuts ((Example.delivery Example.unhashedEntry).history Example.network ()) = [put] ∧
      put.body = manifest.data ∧ manifest.layers = [layer] ∧ report.layerDigest ≠ layer.digest := by
  obtain ⟨report, reported, digest⟩ := Example.delivery_unhashed
  obtain ⟨access, p, created, image, stored, named⟩ := stored_of_reported _ _ _ reported
  obtain ⟨url, response, -, -, -, put⟩ := stored.pushed
  refine ⟨report, _, .ofImage image, _, reported, put, rfl, rfl, ?_⟩
  intro same
  have short := (Layer.verified_iff_algorithm stored.verified).mp (named.symm.trans same)
  rw [← named, digest, Example.algorithm_unhashed] at short
  exact absurd short (by decide)

end Contact
end Stowage
