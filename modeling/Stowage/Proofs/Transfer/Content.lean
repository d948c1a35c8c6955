import Stowage.Proofs.Transfer.Staged

/-! What an image says of the content of its layer: what the layer hashes to uncompressed. A digest that was given
is taken for that hash only if it has been verified. -/
namespace Stowage

namespace Gzip

def magic : Bytes := [0x1f, 0x8b]

theorem isGzip_iff {data : Bytes} : isGzip data = true ↔ magic <+: data := by
  rw [isGzip, decide_eq_true_eq, List.prefix_iff_eq_take, eq_comm]
  rfl

end Gzip

namespace Digest

theorem algorithm_of_prefix {name : List Char} (apart : ':' ∉ name) {digest : String}
    (start : name ++ [':'] <+: digest.toList) : algorithm digest = String.ofList name := by
  obtain ⟨hash, whole⟩ := start
  have colon : digest.toList.contains ':' = true := by simp [← whole]
  have plain : ∀ c ∈ name, decide (c ≠ ':') = true := fun c member =>
    decide_eq_true fun same => apart (same ▸ member)
  rw [algorithm, if_pos colon, ← whole, List.append_assoc, List.takeWhile_append_of_pos plain]
  simp

end Digest

namespace Layer

/-- What a layer holds uncompressed: itself, unless it starts like gzip data. -/
inductive Holds (data : Bytes) : Bytes → Prop
  | plain (other : ¬ Gzip.magic <+: data) : Holds data data
  | zipped {content : Bytes} (start : Gzip.magic <+: data) (inflated : Gzip.decompress data = .ok content) :
    Holds data content

theorem Holds.unique {data content content' : Bytes} (holds : Holds data content) (other : Holds data content') :
    content = content' := by
  cases holds with
  | plain unlike =>
    cases other with
    | plain => rfl
    | zipped start => exact absurd start unlike
  | zipped start inflated =>
    cases other with
    | plain unlike => exact absurd start unlike
    | zipped _ inflated' => exact Except.ok.inj (inflated.symm.trans inflated')

/-- A digest that starts like one of SHA-256 and has been verified is one. -/
theorem verified_sha256 {digest : String} {data : Bytes} (verified : verify digest data = .ok ())
    (start : digest.startsWith "sha256:" = true) : digest = Digest.sha256Text data := by
  have apart : ':' ∉ "sha256".toList := by decide
  have short : Digest.algorithm digest = "sha256" :=
    Digest.algorithm_of_prefix apart (String.startsWith_string_iff.mp start)
  rcases verify_ok_iff.mp verified with computed | ⟨other, -⟩
  · rw [short] at computed
    exact (Option.some.inj computed).symm
  · exact absurd short other

end Layer

namespace Image

theorem plainDiffId_of_verified {digest : String} {data : Bytes} (verified : Layer.verify digest data = .ok ()) :
    plainDiffId data digest = Digest.sha256Text data := by
  unfold plainDiffId
  split
  next start => exact Layer.verified_sha256 verified start
  next => rfl

theorem ofLayer_content {data : Bytes} {digest : String} {stamp : Stamp} {image : Image}
    (verified : Layer.verify digest data = .ok ()) (assembled : ofLayer data digest stamp = .ok image) :
    ∃ content, Layer.Holds data content ∧ image.layer.diffId = Digest.sha256Text content := by
  obtain ⟨diffId, rfl, ⟨content, zipped, inflated, hashed⟩ | ⟨other, taken⟩⟩ := ofLayer_cases assembled
  · exact ⟨content, .zipped (Gzip.isGzip_iff.mp zipped) inflated, hashed⟩
  · refine ⟨data, .plain fun start => ?_, taken.trans (plainDiffId_of_verified verified)⟩
    rw [Gzip.isGzip_iff.mpr start] at other
    cases other

/-- What an image says of the content of its layer and of when it was made. -/
structure Tells (image : Image) (content : Bytes) (created : Moment) : Prop where
  diffId : image.layer.diffId = "sha256:" ++ Bytes.hex (Digest.sha256 content)
  rootfs : ∃ rootfs, image.config.get? "rootfs" = some rootfs ∧
    rootfs.get? "diff_ids" = some (.array [.string image.layer.diffId])
  zipped : image.layer.mediaType = gzipMediaType ↔ Gzip.magic <+: image.layer.data
  plain : image.layer.mediaType = tarMediaType ↔ ¬ Gzip.magic <+: image.layer.data
  stamped : image.config.get? "created" = some (.string created.text)
  history : ∃ made, image.config.get? "history" = some (.array [made]) ∧
    made.get? "created" = some (.string created.text)
  annotated : image.annotations.lookup "org.opencontainers.image.created" = some created.text

theorem configDocument_rootfs (created : Moment) (diffId : String) :
    ∃ rootfs, (configDocument created diffId).get? "rootfs" = some rootfs ∧
      rootfs.get? "diff_ids" = some (.array [.string diffId]) := ⟨_, rfl, rfl⟩

theorem configDocument_created (created : Moment) (diffId : String) :
    (configDocument created diffId).get? "created" = some (.string created.text) ∧
      ∃ made, (configDocument created diffId).get? "history" = some (.array [made]) ∧
        made.get? "created" = some (.string created.text) := ⟨rfl, _, rfl, rfl⟩

theorem mediaType_iff (data : Bytes) :
    ((if Gzip.isGzip data then gzipMediaType else tarMediaType) = gzipMediaType ↔ Gzip.magic <+: data) ∧
      ((if Gzip.isGzip data then gzipMediaType else tarMediaType) = tarMediaType ↔ ¬ Gzip.magic <+: data) := by
  have apart : gzipMediaType ≠ tarMediaType := by decide
  rw [← Gzip.isGzip_iff]
  split
  next zipped => simp [zipped, apart]
  next other => simp [other, apart.symm]

/-- An image of verified data tells what the data holds. -/
theorem tells_of_assembled {data : Bytes} {digest : String} {stamp : Stamp} {image : Image}
    (verified : Layer.verify digest data = .ok ()) (assembled : ofLayer data digest stamp = .ok image) :
    ∃ content, Layer.Holds data content ∧ image.Tells content stamp.created := by
  obtain ⟨content, holds, hashed⟩ := ofLayer_content verified assembled
  obtain ⟨diffId, rfl, -⟩ := ofLayer_cases assembled
  obtain ⟨zipped, plain⟩ := mediaType_iff data
  obtain ⟨stamped, history⟩ := configDocument_created stamp.created diffId
  exact ⟨content, holds, hashed, configDocument_rootfs stamp.created diffId, zipped, plain, stamped, history, rfl⟩

end Image

namespace Transfer

/-- A request that was executed is the only one. -/
theorem Course.requests_of_executed {registry : String} {scheme : Scheme} {destination : String}
    {entry : ResourceEntry} {result : Except TransferFault TransferReport} {done : List Deed}
    (course : Course registry scheme destination entry result done) {request : Http.Request}
    {answer : Except TransportFault Http.Response} (executed : ⟨.execute request, answer⟩ ∈ done) :
    requests done = [request] := by
  have member : request ∈ requests done := List.mem_filterMap.mpr ⟨_, executed, rfl⟩
  obtain silent | ⟨_, _, _, _, _, -, -, -, alone⟩ := course.requested
  · rw [silent] at member
    cases member
  · rw [alone, List.mem_singleton] at member
    rw [alone, member]

variable (registry : String) (scheme : Scheme) (destination : String) (entry : ResourceEntry)
variable {σ : Type} (answer : (e : Errand) → σ → e.Answer × σ) (s : σ)

/-- Whatever the digest was computed with, an image that is published tells the content of the one response. -/
theorem published_tells_content {target : Reference} {image : Image}
    (published : (target, image) ∈ publications (deeds ((run registry scheme destination entry).history answer s))) :
    let done := deeds ((run registry scheme destination entry).history answer s)
    ∃ access p request response created content, Planned destination entry access p ∧
      requests done = [request] ∧ ⟨.execute request, .ok response⟩ ∈ done ∧ ⟨.now, created⟩ ∈ done ∧
      response.body = .ok image.layer.data ∧ image.layer.digest = access.digest ∧
      Layer.Holds image.layer.data content ∧ image.Tells content created := by
  intro done
  have course : Course registry scheme destination entry _ done :=
    run_course registry scheme destination entry answer s
  obtain silent | ⟨access, p, image', alone, sound⟩ := course.published
  · rw [silent] at published
    cases published
  rw [alone, List.mem_singleton] at published
  obtain ⟨rfl, rfl⟩ := Prod.mk.inj published
  obtain ⟨_, request, response, -, executed, accepted⟩ := sound.fetched
  obtain ⟨created, told, assembled⟩ := sound.assembled
  obtain ⟨content, holds, tells⟩ := Image.tells_of_assembled accepted.verified assembled
  exact ⟨access, p, request, response, created, content, sound.planned, course.requests_of_executed executed,
    executed, told, accepted.whole, (Image.ofLayer_ok assembled).2.1, holds, tells⟩

end Transfer

namespace Example

def zipped : Bytes :=
  [31, 139, 8, 0, 0, 0, 0, 0, 2, 3, 203, 73, 172, 76, 45, 2, 0, 26, 33, 219, 228, 5, 0, 0, 0]

theorem holds_zipped : Layer.Holds zipped layer := .zipped (by decide) (by decide +kernel)

def unhashedEntry : ResourceEntry := { entry with access := Access.document unhashed }

def zipping : (e : Errand) → Unit → e.Answer × Unit
  | .execute _, _ => (.ok { status := 200, body := .ok zipped }, ())
  | e, s => obliging e s

def zippedShipment : Errands (Except TransferFault TransferReport) :=
  Transfer.run "registry:5000" .http "registry:5000/snapshots/app:1" unhashedEntry

end Example

set_option maxRecDepth 10000 in
/-- The layer is told by what it holds, which is neither what it is nor what it was asked for by. -/
theorem Transfer.zipped_tells_content :
    ∃ target image, (target, image) ∈ publications (deeds (Example.zippedShipment.history Example.zipping ())) ∧
      image.layer.data = Example.zipped ∧ image.layer.diffId = Example.hashed.digest ∧
      image.layer.mediaType = Image.gzipMediaType := by
  have sent : (publications (deeds (Example.zippedShipment.history Example.zipping ()))).map
      (·.2.layer.data) = [Example.zipped] := by decide +kernel
  obtain ⟨⟨target, image⟩, published, data⟩ := List.mem_map.mp (sent ▸ List.mem_singleton_self Example.zipped)
  obtain ⟨_, _, _, _, _, content, -, -, -, -, -, -, holds, tells⟩ := published_tells_content _ _ _ _ _ _ published
  change image.layer.data = Example.zipped at data
  rw [data] at holds
  have same : Digest.sha256Text content = Example.hashed.digest := by
    rw [holds.unique Example.holds_zipped]
    exact Option.some.inj ((if_pos rfl).symm.trans Example.of?_layer)
  refine ⟨target, image, published, data, tells.diffId.trans same, tells.zipped.mpr ?_⟩
  rw [data]
  decide

end Stowage
