import Stowage.Proofs.Gzip.Members
import Stowage.Proofs.Transfer.Content

/-! Images of layers that are members of gzip data, one behind the other. Together they stand for the contents of all,
but an image is made of a single member alone. -/
namespace Stowage

namespace Image

theorem ofLayer_gzip {data : Bytes} (zipped : Gzip.isGzip data = true) (digest : String) (stamp : Stamp) :
    ofLayer data digest stamp = (Gzip.decompress data).map fun content =>
      { layer := ⟨data, gzipMediaType, digest, Digest.sha256Text content⟩
        config := configDocument stamp.created (Digest.sha256Text content)
        annotations := stamp.annotations } := by
  unfold ofLayer
  dsimp only
  rw [if_pos zipped, if_pos zipped]
  cases Gzip.decompress data <;> rfl

section Members

variable (m : Gzip.Member) (more : List Gzip.Member) (digest : String) (stamp : Stamp)

theorem ofLayer_joined : ofLayer ((m :: more).flatMap Gzip.Member.data) digest stamp =
    (Gzip.decompress (m.data ++ more.flatMap Gzip.Member.data)).map fun content =>
      { layer := ⟨(m :: more).flatMap Gzip.Member.data, gzipMediaType, digest, Digest.sha256Text content⟩
        config := configDocument stamp.created (Digest.sha256Text content)
        annotations := stamp.annotations } := by
  have zipped : Gzip.isGzip ((m :: more).flatMap Gzip.Member.data) = true := by
    rw [List.flatMap_cons]
    exact m.isGzip_data _
  rw [ofLayer_gzip zipped, List.flatMap_cons]

variable {m more}

theorem ofLayer_long (long : ¬ m.header.Brief) :
    ofLayer ((m :: more).flatMap Gzip.Member.data) digest stamp = .error .fieldTooLong := by
  rw [ofLayer_joined, Gzip.Member.decompress_long _ long]
  rfl

theorem ofLayer_wide (brief : m.header.Brief) (wide : ¬ m.stream.Narrow) :
    ofLayer ((m :: more).flatMap Gzip.Member.data) digest stamp = .error .corruptStream := by
  rw [ofLayer_joined, Gzip.Member.decompress_wide _ brief wide]
  rfl

theorem ofLayer_more (readable : m.Readable) (some : more ≠ []) :
    ofLayer ((m :: more).flatMap Gzip.Member.data) digest stamp = .error .trailing := by
  have left : more.flatMap Gzip.Member.data ≠ [] := by
    obtain ⟨next, more, rfl⟩ := List.exists_cons_of_ne_nil some
    rw [List.flatMap_cons]
    exact List.append_ne_nil_of_left_ne_nil next.data_ne_nil _
  rw [ofLayer_joined, Gzip.Member.decompress_readable _ readable, Gzip.Member.close_more _ left]
  rfl

theorem ofLayer_alone (readable : m.Readable) : ofLayer ([m].flatMap Gzip.Member.data) digest stamp =
    .ok {
      layer := ⟨[m].flatMap Gzip.Member.data, gzipMediaType, digest, Digest.sha256Text m.content⟩
      config := configDocument stamp.created (Digest.sha256Text m.content)
      annotations := stamp.annotations } := by
  rw [ofLayer_joined, Gzip.Member.decompress_readable _ readable, List.flatMap_nil, List.append_nil,
    Gzip.Member.close_trailer]
  rfl

/-- An image is made of no more than one member, and of none that cannot be read. -/
theorem of_ofLayer_ok {image : Image}
    (made : ofLayer ((m :: more).flatMap Gzip.Member.data) digest stamp = .ok image) :
    more = [] ∧ m.Readable := by
  by_cases brief : m.header.Brief
  · by_cases narrow : m.stream.Narrow
    · have readable : m.Readable := ⟨brief, narrow⟩
      refine ⟨?_, readable⟩
      cases more with
      | nil => rfl
      | cons next more =>
        rw [ofLayer_more digest stamp readable (List.cons_ne_nil _ _)] at made
        cases made
    · rw [ofLayer_wide digest stamp brief narrow] at made
      cases made
  · rw [ofLayer_long digest stamp brief] at made
    cases made

variable (m more)

/-- Members are made an image of if and only if there is no second one, and the one has neither a text nor a table of
codes that is too large for the reader; then the image has the data as it came, and tells its content. -/
theorem ofLayer_members :
    let data := (m :: more).flatMap Gzip.Member.data
    let made := ofLayer data digest stamp
    ((∃ image, made = .ok image) ↔ more = [] ∧ m.Readable) ∧
    (∀ image, made = .ok image → image.layer.data = data ∧ image.layer.mediaType = gzipMediaType ∧
      image.layer.diffId = Digest.sha256Text ((m :: more).flatMap Gzip.Member.content)) ∧
    (m.Readable → more ≠ [] → made = .error .trailing) ∧
    (¬ m.header.Brief → made = .error .fieldTooLong) ∧
    (m.header.Brief → ¬ m.stream.Narrow → made = .error .corruptStream) := by
  refine ⟨⟨?_, ?_⟩, ?_, ofLayer_more digest stamp, ofLayer_long digest stamp, ofLayer_wide digest stamp⟩
  · rintro ⟨image, made⟩
    exact of_ofLayer_ok digest stamp made
  · rintro ⟨rfl, readable⟩
    exact ⟨_, ofLayer_alone digest stamp readable⟩
  · intro image made
    obtain ⟨rfl, readable⟩ := of_ofLayer_ok digest stamp made
    rw [ofLayer_alone digest stamp readable] at made
    cases made
    refine ⟨rfl, rfl, ?_⟩
    rw [List.flatMap_singleton (f := Gzip.Member.content)]

end Members

end Image

namespace Example

def zippedStream : Gzip.Deflate.Stream where
  blocks := [.fixed [.literal 108, .literal 97, .literal 121, .literal 101, .literal 114]]
  filler := List.replicate 6 false
  data := [203, 73, 172, 76, 45, 2, 0]
  some := List.cons_ne_nil _ _
  fit := by decide +kernel
  short := by decide
  written := by decide +kernel

def zippedMember : Gzip.Member where
  header :=
    { text := false, origin := [0, 0, 0, 0, 2, 3], extra := none, name := none, comment := none, summed := false
      originSize := rfl, extraSize := by simp, nameText := by simp, commentText := by simp }
  stream := zippedStream

theorem data_zippedMember : zippedMember.data = zipped := by decide +kernel

end Example

/-- Two members, each of which can be read, make no image. -/
theorem Image.ofLayer_twice :
    [Example.zippedMember, Example.zippedMember].flatMap Gzip.Member.data = Example.zipped ++ Example.zipped ∧
    ∀ digest stamp, ofLayer (Example.zipped ++ Example.zipped) digest stamp = .error .trailing := by
  have left : Gzip.decompress (Example.zipped ++ Example.zipped) = .error .trailing := by decide +kernel
  constructor
  · rw [List.flatMap_cons, List.flatMap_singleton, Example.data_zippedMember]
  · intro digest stamp
    rw [ofLayer_gzip (by decide), left]
    rfl

end Stowage
