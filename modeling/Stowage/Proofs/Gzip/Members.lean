import Mathlib.Data.List.TakeWhile
import Stowage.Gzip.Basic
import Stowage.Proofs.Gzip.Blocks

/-! Members of gzip data: a header, a deflate stream, and the check sum and length of what the stream stands for.
Decompression takes one member, and no bytes behind it. -/
namespace Stowage

def Bytes.little : Nat → Nat → Bytes
  | 0, _ => []
  | count + 1, n => UInt8.ofNat n :: little count (n / 256)

@[simp] theorem Bytes.length_little (count n : Nat) : (little count n).length = count := by
  induction count generalizing n with
  | zero => rfl
  | succ count ih => rw [little, List.length_cons, ih]

theorem Bytes.littleEndian_little {count n : Nat} (small : n < 256 ^ count) : littleEndian (little count n) = n := by
  induction count generalizing n with
  | zero =>
    have none : n = 0 := by omega
    rw [none]
    rfl
  | succ count ih =>
    have rest : n / 256 < 256 ^ count := by
      rw [Nat.div_lt_iff_lt_mul (by decide)]
      rwa [Nat.pow_succ] at small
    have tail : littleEndian (little (count + 1) n) = (UInt8.ofNat n).toNat + 256 * littleEndian (little count (n / 256)) :=
      rfl
    rw [tail, ih rest, UInt8.toNat_ofNat']
    omega

namespace Gzip

structure Header where
  text : Bool
  /-- When the content was written, how hard it was compressed, and on what system. -/
  origin : Bytes
  extra : Option Bytes
  name : Option Bytes
  comment : Option Bytes
  /-- Whether there is a check sum of the header. -/
  summed : Bool
  originSize : origin.length = 6
  extraSize : ∀ e ∈ extra, e.length < 2 ^ 16
  nameText : ∀ n ∈ name, 0 ∉ n
  commentText : ∀ c ∈ comment, 0 ∉ c

namespace Header

def flags (text summed extra name comment : Bool) : Nat :=
  text.toNat + 2 * summed.toNat + 4 * extra.toNat + 8 * name.toNat + 16 * comment.toNat

theorem flags_bits : ∀ text summed extra name comment : Bool,
    let n := flags text summed extra name comment
    n < 0x20 ∧ n.testBit 1 = summed ∧ n.testBit 2 = extra ∧ n.testBit 3 = name ∧ n.testBit 4 = comment := by decide

def extraField : Option Bytes → Bytes
  | none => []
  | some e => Bytes.little 2 e.length ++ e

def textField : Option Bytes → Bytes
  | none => []
  | some n => n ++ [0]

variable (h : Header)

def flag : Nat := flags h.text h.summed h.extra.isSome h.name.isSome h.comment.isSome

def start : Bytes :=
  [0x1f, 0x8b, 8, UInt8.ofNat h.flag] ++ h.origin ++
    (extraField h.extra ++ (textField h.name ++ textField h.comment))

def sum : Bytes := if h.summed then Bytes.little 2 ((Digest.crc32 h.start).toNat % 2 ^ 16) else []

def data : Bytes := h.start ++ h.sum

/-- The texts are short enough for one reader. -/
def Brief : Prop := (∀ n ∈ h.name, n.length < 65536) ∧ ∀ c ∈ h.comment, c.length < 65536

end Header

theorem skip_append (before : Bytes) {count : Nat} (size : before.length = count) (rest : Bytes) :
    skip count (before ++ rest) = .ok rest := by
  rw [skip, if_pos (by rw [List.length_append]; omega), List.drop_left' size]

theorem littleEndian_take {count n : Nat} (small : n < 256 ^ count) (rest : Bytes) :
    Bytes.littleEndian ((Bytes.little count n ++ rest).take count) = n := by
  rw [List.take_left' (Bytes.length_little count n), Bytes.littleEndian_little small]

theorem skipIf_extraField {extra : Option Bytes} (size : ∀ e ∈ extra, e.length < 2 ^ 16) (rest : Bytes) :
    skipIf extra.isSome skipExtra (Header.extraField extra ++ rest) = .ok rest := by
  cases extra with
  | none => rfl
  | some e =>
    have small : e.length < 256 ^ 2 := size e rfl
    change skipExtra (Bytes.little 2 e.length ++ e ++ rest) = _
    rw [List.append_assoc, skipExtra, littleEndian_take small, skip_append _ (Bytes.length_little 2 _)]
    exact skip_append e rfl rest

/-- What comes before the zero of a text. -/
theorem takeWhile_text {n : Bytes} (text : 0 ∉ n) (rest : Bytes) : (n ++ 0 :: rest).takeWhile (· ≠ 0) = n := by
  have plain : ∀ b ∈ n, decide (b ≠ 0) = true := fun b member => decide_eq_true fun zero => text (zero ▸ member)
  rw [List.takeWhile_append_of_pos plain]
  simp

theorem skipField_brief {n : Bytes} (text : 0 ∉ n) (brief : n.length < 65536) (rest : Bytes) :
    skipField (n ++ 0 :: rest) = .ok rest := by
  have seen : (n ++ 0 :: rest).take 65536 = n ++ 0 :: rest.take (65535 - n.length) := by
    rw [List.take_append, List.take_of_length_le (by omega), show 65536 - n.length = 65535 - n.length + 1 by omega,
      List.take_succ_cons]
  have field : ((n ++ 0 :: rest).take 65536).takeWhile (· ≠ 0) = n := by rw [seen, takeWhile_text text]
  have skipped : skip (n.length + 1) (n ++ [0] ++ rest) = .ok rest := skip_append (n ++ [0]) (by simp) rest
  rw [List.append_assoc] at skipped
  unfold skipField
  rw [field, if_neg (by omega)]
  exact skipped

theorem skipField_long {n : Bytes} (text : 0 ∉ n) (long : 65536 ≤ n.length) (rest : Bytes) :
    skipField (n ++ rest) = .error .fieldTooLong := by
  have plain : ∀ b ∈ n.take 65536, decide (b ≠ 0) = true := fun b member =>
    decide_eq_true fun zero => text (zero ▸ List.mem_of_mem_take member)
  have all : ((n ++ rest).take 65536).takeWhile (· ≠ 0) = n.take 65536 := by
    rw [List.take_append_of_le_length long]
    exact List.takeWhile_eq_self_iff.mpr plain
  unfold skipField
  rw [all, if_pos (List.length_take_of_le long)]

theorem skipIf_textField {text : Option Bytes} (plain : ∀ n ∈ text, 0 ∉ n) (brief : ∀ n ∈ text, n.length < 65536)
    (rest : Bytes) : skipIf text.isSome skipField (Header.textField text ++ rest) = .ok rest := by
  cases text with
  | none => rfl
  | some n =>
    have read := skipField_brief (plain n rfl) (brief n rfl) rest
    change skipField (n ++ [0] ++ rest) = _
    rwa [List.append_assoc]

theorem skipIf_textField_long {text : Option Bytes} (plain : ∀ n ∈ text, 0 ∉ n)
    (long : ¬ ∀ n ∈ text, n.length < 65536) (rest : Bytes) :
    skipIf text.isSome skipField (Header.textField text ++ rest) = .error .fieldTooLong := by
  cases text with
  | none => exact absurd (by simp) long
  | some n =>
    have far : 65536 ≤ n.length := by simpa using long
    change skipField (n ++ [0] ++ rest) = _
    rw [List.append_assoc]
    exact skipField_long (plain n rfl) far ([0] ++ rest)

namespace Header

variable (h : Header)

theorem length_fixed : ([0x1f, 0x8b, 8, UInt8.ofNat h.flag] ++ h.origin).length = 10 := by
  rw [List.length_append, h.originSize]
  rfl

theorem skipIf_sum (rest : Bytes) :
    skipIf h.summed (skipHeaderSum (h.data ++ rest)) (h.sum ++ rest) = .ok rest := by
  cases summed : h.summed with
  | false =>
    rw [sum, summed]
    rfl
  | true =>
    have told : h.sum = Bytes.little 2 ((Digest.crc32 h.start).toNat % 2 ^ 16) := by rw [sum, summed, if_pos rfl]
    have small : (Digest.crc32 h.start).toNat % 2 ^ 16 < 256 ^ 2 := Nat.mod_lt _ (by decide)
    have before : (h.data ++ rest).take ((h.data ++ rest).length - (h.sum ++ rest).length) = h.start := by
      rw [data, List.append_assoc, List.length_append, Nat.add_sub_cancel, List.take_left]
    change skipHeaderSum (h.data ++ rest) (h.sum ++ rest) = _
    unfold skipHeaderSum
    rw [before, told, littleEndian_take small, skip_append _ (Bytes.length_little 2 _)]
    exact if_pos rfl

/-- A header is skipped field by field. -/
theorem skipHeader_data (rest : Bytes) : skipHeader (h.data ++ rest) =
    (skipIf h.extra.isSome skipExtra (extraField h.extra ++ (textField h.name ++ (textField h.comment ++ (h.sum ++ rest))))
      >>= fun data => skipIf h.name.isSome skipField data
      >>= fun data => skipIf h.comment.isSome skipField data
      >>= fun data => skipIf h.summed (skipHeaderSum (h.data ++ rest)) data) := by
  obtain ⟨small, summed, extra, name, comment⟩ :=
    flags_bits h.text h.summed h.extra.isSome h.name.isSome h.comment.isSome
  have whole : h.data ++ rest = [0x1f, 0x8b, 8, UInt8.ofNat h.flag] ++ h.origin ++
      (extraField h.extra ++ (textField h.name ++ (textField h.comment ++ (h.sum ++ rest)))) := by
    rw [data, start]
    simp only [List.append_assoc]
  have fixed : skip 10 (h.data ++ rest) =
      .ok (extraField h.extra ++ (textField h.name ++ (textField h.comment ++ (h.sum ++ rest)))) := by
    rw [whole]
    exact skip_append _ h.length_fixed _
  have told : ((h.data ++ rest).getD 3 0).toNat = h.flag := by
    change (UInt8.ofNat h.flag).toNat = h.flag
    rw [UInt8.toNat_ofNat']
    exact Nat.mod_eq_of_lt (Nat.lt_trans small (by decide))
  have fine : (!isGzip (h.data ++ rest) || decide ((h.data ++ rest).getD 2 0 ≠ 8) || decide (0x20 ≤ h.flag)) = false := by
    have known : ¬ 0x20 ≤ h.flag := Nat.not_le_of_lt small
    rw [decide_eq_false known]
    rfl
  unfold skipHeader
  rw [fixed]
  change (if _ then _ else _) = _
  rw [told, fine, flag, summed, extra, name, comment]
  rfl

theorem skipHeader_brief (brief : h.Brief) (rest : Bytes) : skipHeader (h.data ++ rest) = .ok rest := by
  rw [skipHeader_data, skipIf_extraField h.extraSize]
  change (skipIf h.name.isSome skipField _ >>= _) = _
  rw [skipIf_textField h.nameText brief.1]
  change (skipIf h.comment.isSome skipField _ >>= _) = _
  rw [skipIf_textField h.commentText brief.2]
  exact h.skipIf_sum rest

theorem skipHeader_long (long : ¬ h.Brief) (rest : Bytes) : skipHeader (h.data ++ rest) = .error .fieldTooLong := by
  rw [skipHeader_data, skipIf_extraField h.extraSize]
  change (skipIf h.name.isSome skipField _ >>= _) = _
  by_cases brief : ∀ n ∈ h.name, n.length < 65536
  · rw [skipIf_textField h.nameText brief]
    change (skipIf h.comment.isSome skipField _ >>= _) = _
    rw [skipIf_textField_long h.commentText fun other => long ⟨brief, other⟩]
    rfl
  · rw [skipIf_textField_long h.nameText brief]
    rfl

end Header

structure Member where
  header : Header
  stream : Deflate.Stream

namespace Member

variable (m : Member)

def content : Bytes := m.stream.content

def trailer : Bytes :=
  Bytes.little 4 (Digest.crc32 m.content).toNat ++ Bytes.little 4 (m.content.length % 2 ^ 32)

def data : Bytes := m.header.data ++ (m.stream.data ++ m.trailer)

/-- Short texts in the header, and no block with too many codes for distances. -/
def Readable : Prop := m.header.Brief ∧ m.stream.Narrow

variable {m} (more : Bytes)

theorem data_append : m.data ++ more = m.header.data ++ (m.stream.data ++ (m.trailer ++ more)) := by
  simp only [data, List.append_assoc]

def close : Except Stop (Bytes × Bytes) → Except Fault Bytes
  | .error .ended => .error .mismatch
  | .error .corrupt => .error .corruptStream
  | .ok (content, trailer) =>
    if trailer.length < 8 then .error .mismatch
    else if 8 < trailer.length then .error .trailing
    else if Bytes.littleEndian (trailer.take 4) ≠ (Digest.crc32 content).toNat then .error .mismatch
    else if Bytes.littleEndian (trailer.drop 4) ≠ content.length % UInt32.size then .error .mismatch
    else .ok content

theorem decompress_eq (data : Bytes) :
    decompress data = skipHeader data >>= fun rest => close (Deflate.inflate rest) := by
  unfold decompress
  refine congrArg (skipHeader data >>= ·) (funext fun rest => ?_)
  cases Deflate.inflate rest with
  | ok read => rfl
  | error s => cases s <;> rfl

theorem length_trailer : m.trailer.length = 8 := by
  rw [trailer, List.length_append, Bytes.length_little, Bytes.length_little]

theorem close_trailer : close (.ok (m.content, m.trailer)) = .ok m.content := by
  have sum : Bytes.littleEndian (m.trailer.take 4) = (Digest.crc32 m.content).toNat :=
    littleEndian_take (UInt32.toNat_lt _) _
  have size : Bytes.littleEndian (m.trailer.drop 4) = m.content.length % 2 ^ 32 := by
    rw [trailer, List.drop_left' (Bytes.length_little 4 _)]
    exact Bytes.littleEndian_little (Nat.mod_lt _ (by decide))
  rw [close, length_trailer, if_neg (by decide), if_neg (by decide), if_neg (not_not.mpr sum)]
  exact if_neg (not_not.mpr size)

theorem close_more (some : more ≠ []) : close (.ok (m.content, m.trailer ++ more)) = .error .trailing := by
  have size : 0 < more.length := List.length_pos_iff.mpr some
  rw [close, List.length_append, length_trailer, if_neg (by omega), if_pos (by omega)]

/-- A member that can be read is read to the end of its stream, and then what follows is looked at. -/
theorem decompress_readable (readable : m.Readable) :
    decompress (m.data ++ more) = close (.ok (m.content, m.trailer ++ more)) := by
  rw [decompress_eq, data_append, m.header.skipHeader_brief readable.1]
  change close (Deflate.inflate _) = _
  rw [Deflate.Stream.inflate_narrow _ readable.2]
  rfl

theorem decompress_long (long : ¬ m.header.Brief) : decompress (m.data ++ more) = .error .fieldTooLong := by
  rw [decompress_eq, data_append, m.header.skipHeader_long long]
  rfl

theorem decompress_wide (brief : m.header.Brief) (wide : ¬ m.stream.Narrow) :
    decompress (m.data ++ more) = .error .corruptStream := by
  rw [decompress_eq, data_append, m.header.skipHeader_brief brief]
  change close (Deflate.inflate _) = _
  rw [Deflate.Stream.inflate_wide _ wide]
  rfl

theorem isGzip_data : isGzip (m.data ++ more) = true := rfl

theorem data_ne_nil : m.data ≠ [] := List.cons_ne_nil _ _

end Member

end Gzip
end Stowage
