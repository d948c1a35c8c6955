import Stowage.Bytes

/-! The bytes of a text in UTF-8. A character of ASCII is one byte, the same number; any other has bytes from 0x80 on
alone. -/
namespace Stowage.Bytes

theorem toList_loop (bytes : ByteArray) (i : Nat) (before : List UInt8) :
    ByteArray.toList.loop bytes i before = before.reverse ++ bytes.data.toList.drop i := by
  fun_induction ByteArray.toList.loop bytes i before with
  | case1 i before inside ih =>
    have bound : i < bytes.data.toList.length := by simpa using inside
    rw [ih, List.drop_eq_getElem_cons bound]
    simp [ByteArray.get!, inside]
  | case2 i before outside =>
    rw [List.drop_eq_nil_of_le (by simpa using Nat.le_of_not_lt outside)]
    simp

/-- The bytes of a text are those of its characters. -/
theorem ofText_eq (s : String) : ofText s = s.toList.flatMap String.utf8EncodeChar := by
  obtain ⟨cs, rfl⟩ : ∃ cs, s = String.ofList cs := ⟨s.toList, String.ofList_toList.symm⟩
  rw [ofText, String.toUTF8_eq_toByteArray, String.toByteArray_ofList, ByteArray.toList, toList_loop,
    List.utf8Encode, List.toList_data_toByteArray, String.toList_ofList]
  rfl

theorem mem_ofText_iff {s : String} {b : UInt8} : b ∈ ofText s ↔ ∃ c ∈ s.toList, b ∈ String.utf8EncodeChar c := by
  rw [ofText_eq, List.mem_flatMap]

theorem utf8_ascii {c : Char} (ascii : c.toNat < 0x80) {b : UInt8} :
    b ∈ String.utf8EncodeChar c ↔ b.toNat = c.toNat := by
  have short : c.val.toNat ≤ 0x7f := Nat.le_of_lt_succ ascii
  have byte : c.val.toNat < 256 := by omega
  unfold String.utf8EncodeChar
  rw [if_pos short, List.mem_singleton, ← UInt8.toNat_inj, UInt8.toNat_ofNat_of_lt' byte]
  rfl

theorem toNat_ofNat_ge {low n : Nat} (above : low ≤ n) (byte : n < 256) : low ≤ (UInt8.ofNat n).toNat := by
  rwa [UInt8.toNat_ofNat_of_lt' byte]

theorem utf8_beyond {c : Char} (beyond : 0x80 ≤ c.toNat) {b : UInt8} (member : b ∈ String.utf8EncodeChar c) :
    0x80 ≤ b.toNat := by
  have long : ¬ c.val.toNat ≤ 0x7f := Nat.not_le.mpr beyond
  unfold String.utf8EncodeChar at member
  rw [if_neg long] at member
  -- Two to four bytes, each with its mark in the upper bits.
  split at member
  · simp only [List.mem_cons, List.not_mem_nil, or_false] at member
    rcases member with rfl | rfl <;> exact toNat_ofNat_ge (by omega) (by omega)
  split at member
  · simp only [List.mem_cons, List.not_mem_nil, or_false] at member
    rcases member with rfl | rfl | rfl <;> exact toNat_ofNat_ge (by omega) (by omega)
  · simp only [List.mem_cons, List.not_mem_nil, or_false] at member
    rcases member with rfl | rfl | rfl | rfl <;> exact toNat_ofNat_ge (by omega) (by omega)

/-- A byte of a text is a character in ASCII, or part of one beyond. -/
theorem mem_ofText_cases {s : String} {b : UInt8} (member : b ∈ ofText s) :
    ∃ c ∈ s.toList, b.toNat = c.toNat ∧ c.toNat < 0x80 ∨ 0x80 ≤ b.toNat ∧ 0x80 ≤ c.toNat := by
  obtain ⟨c, there, part⟩ := mem_ofText_iff.mp member
  rcases Nat.lt_or_ge c.toNat 0x80 with ascii | beyond
  · exact ⟨c, there, .inl ⟨(utf8_ascii ascii).mp part, ascii⟩⟩
  · exact ⟨c, there, .inr ⟨utf8_beyond beyond part, beyond⟩⟩

theorem exists_mem_ofText {s : String} {c : Char} (member : c ∈ s.toList) :
    ∃ b ∈ ofText s, b.toNat = c.toNat ∧ c.toNat < 0x80 ∨ 0x80 ≤ b.toNat ∧ 0x80 ≤ c.toNat := by
  obtain ⟨b, part⟩ := List.exists_mem_of_ne_nil _ String.utf8EncodeChar_ne_nil
  refine ⟨b, mem_ofText_iff.mpr ⟨c, member, part⟩, ?_⟩
  rcases Nat.lt_or_ge c.toNat 0x80 with ascii | beyond
  · exact .inl ⟨(utf8_ascii ascii).mp part, ascii⟩
  · exact .inr ⟨utf8_beyond beyond part, beyond⟩

theorem ofText_ascii_iff {s : String} : (∀ b ∈ ofText s, b.toNat < 0x80) ↔ ∀ c ∈ s.toList, c.toNat < 0x80 := by
  constructor
  · intro ascii c member
    obtain ⟨b, there, same⟩ := exists_mem_ofText member
    have := ascii b there
    omega
  · intro ascii b member
    obtain ⟨c, there, same⟩ := mem_ofText_cases member
    have := ascii c there
    omega

end Stowage.Bytes
