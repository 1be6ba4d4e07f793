import Intermediary.Bytes

/-!
# Characters of ASCII in encoded texts

The encoding of a character outside ASCII holds no byte of ASCII, so the bytes
of a text hold a character of ASCII, such as a line feed, exactly when the text
does.
-/

namespace Intermediary

namespace Bytes

private theorem utf8EncodeChar_of_ascii {c : Char} (h : c.toNat < 128) :
    String.utf8EncodeChar c = [UInt8.ofNat c.toNat] := by
  have hle : c.val.toNat ≤ 127 := Nat.le_of_lt_succ h
  unfold String.utf8EncodeChar
  exact if_pos hle

private theorem le_toNat_of_mem_utf8EncodeChar {c : Char} (h : 128 ≤ c.toNat) {b : UInt8}
    (hb : b ∈ String.utf8EncodeChar c) : 128 ≤ b.toNat := by
  have hgt : ¬ c.val.toNat ≤ 127 := Nat.not_le.2 h
  have hvalid : c.val.toNat < 1114112 := by
    rcases c.valid with hlow | ⟨_, hhigh⟩
    · exact Nat.lt_trans hlow (by decide)
    · exact hhigh
  simp only [String.utf8EncodeChar, if_neg hgt] at hb
  split at hb
  · simp only [List.mem_cons, List.not_mem_nil, or_false] at hb
    rcases hb with rfl | rfl <;> rw [UInt8.toNat_ofNat'] <;> omega
  · split at hb
    · simp only [List.mem_cons, List.not_mem_nil, or_false] at hb
      rcases hb with rfl | rfl | rfl <;> rw [UInt8.toNat_ofNat'] <;> omega
    · simp only [List.mem_cons, List.not_mem_nil, or_false] at hb
      rcases hb with rfl | rfl | rfl | rfl <;> rw [UInt8.toNat_ofNat'] <;> omega

theorem mem_utf8EncodeChar_iff {mark c : Char} (hmark : mark.toNat < 128) :
    UInt8.ofNat mark.toNat ∈ String.utf8EncodeChar c ↔ c = mark := by
  constructor
  · intro h
    by_cases hascii : c.toNat < 128
    · rw [utf8EncodeChar_of_ascii hascii, List.mem_singleton] at h
      have hnat : mark.toNat % 256 = c.toNat % 256 := by
        simpa using congrArg UInt8.toNat h
      rw [Nat.mod_eq_of_lt (by omega), Nat.mod_eq_of_lt (by omega)] at hnat
      rw [← Char.ofNat_toNat c, ← hnat, Char.ofNat_toNat]
    · have hle := le_toNat_of_mem_utf8EncodeChar (Nat.le_of_not_lt hascii) h
      rw [UInt8.toNat_ofNat'] at hle
      omega
  · rintro rfl
    rw [utf8EncodeChar_of_ascii hmark]
    exact List.mem_singleton_self _

private theorem ofText_eq_flatMap (text : String) :
    ofText text = text.toList.flatMap String.utf8EncodeChar := by
  unfold ofText
  rw [← String.utf8Encode_toList]
  unfold List.utf8Encode
  rw [List.toList_data_toByteArray]

/-- A text of ASCII characters has one byte for each of them. -/
theorem length_ofText_of_ascii {text : String} (h : ∀ c ∈ text.toList, c.toNat < 128) :
    (ofText text).length = text.toList.length := by
  have hone : ∀ c ∈ text.toList, (String.utf8EncodeChar c).length = 1 := by
    intro c hc
    rw [utf8EncodeChar_of_ascii (h c hc)]
    rfl
  rw [ofText_eq_flatMap, List.length_flatMap, List.map_congr_left hone, List.map_const',
    List.sum_replicate_nat, Nat.mul_one]

/-- A text holds a character of ASCII where its bytes do. -/
theorem mem_ofText_iff {mark : Char} {text : String} (hmark : mark.toNat < 128) :
    UInt8.ofNat mark.toNat ∈ ofText text ↔ mark ∈ text.toList := by
  simp [ofText_eq_flatMap, mem_utf8EncodeChar_iff hmark]

theorem lf_mem_ofText_iff {text : String} : lf ∈ ofText text ↔ '\n' ∈ text.toList :=
  @mem_ofText_iff '\n' text (by decide)

end Bytes

end Intermediary
