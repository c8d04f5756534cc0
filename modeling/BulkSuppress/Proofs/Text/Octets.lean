import BulkSuppress.Text.Utf8

/-
  The bytes of texts. Those of a text joined from two are the bytes of the one and of the other
  (`octets_append`), and a text comes back from its bytes (`decode?_octets`). A byte below 0x80
  stands for its character and is part of no other (`mem_octets_iff`), so that a text can be cut at
  such characters by cutting its bytes.
-/

namespace BulkSuppress.Utf8

/-- The bytes of a text, as a list. -/
def octets (s : String) : List UInt8 := (encode s).data.toList

variable {s t : String} {c : Char} {b : UInt8}

theorem octets_append (s t : String) : octets (s ++ t) = octets s ++ octets t := by
  simp [octets, encode, String.toUTF8_eq_toByteArray]

theorem octets_eq_flatMap (s : String) : octets s = s.toList.flatMap String.utf8EncodeChar := by
  rw [octets, encode, String.toUTF8_eq_toByteArray, ← String.utf8Encode_toList]
  simp [List.utf8Encode]

theorem mk_octets (s : String) : ByteArray.mk (octets s).toArray = encode s := by
  rw [octets]

theorem decode?_encode (s : String) : decode? (encode s) = some s := by
  simp only [decode?, encode, String.fromUTF8?, String.toUTF8_eq_toByteArray,
    dif_pos s.isValidUTF8]
  rfl

theorem decode?_octets (s : String) : decode? ⟨(octets s).toArray⟩ = some s := by
  rw [mk_octets, decode?_encode]

/-! ## Characters below 0x80 -/

theorem utf8EncodeChar_of_lt (h : c.toNat < 0x80) :
    String.utf8EncodeChar c = [UInt8.ofNat c.toNat] := by
  have hle : c.val.toNat ≤ 127 := Nat.le_of_lt_succ h
  rw [String.utf8EncodeChar, if_pos hle]
  rfl

/-- The bytes of a character that takes several are all from 0x80 on. -/
theorem le_of_mem_utf8EncodeChar (h : 0x80 ≤ c.toNat) (hb : b ∈ String.utf8EncodeChar c) :
    0x80 ≤ b := by
  have hlt : ¬ c.val.toNat ≤ 127 := Nat.not_le.2 h
  rw [UInt8.le_iff_toNat_le]
  simp only [String.utf8EncodeChar, hlt, if_false] at hb
  split at hb
  · simp only [List.mem_cons, List.not_mem_nil, or_false] at hb
    rcases hb with rfl | rfl <;> simp <;> omega
  · split at hb
    · simp only [List.mem_cons, List.not_mem_nil, or_false] at hb
      rcases hb with rfl | rfl | rfl <;> simp <;> omega
    · simp only [List.mem_cons, List.not_mem_nil, or_false] at hb
      rcases hb with rfl | rfl | rfl | rfl <;> simp <;> omega

/-- The byte of a character below 0x80 is there exactly if the character is. -/
theorem mem_octets_iff (h : c.toNat < 0x80) : UInt8.ofNat c.toNat ∈ octets s ↔ c ∈ s.toList := by
  rw [octets_eq_flatMap, List.mem_flatMap]
  constructor
  · rintro ⟨d, hd, hb⟩
    have hlt : d.toNat < 0x80 := by
      refine Nat.lt_of_not_le fun hle => ?_
      have := UInt8.le_iff_toNat_le.1 (le_of_mem_utf8EncodeChar hle hb)
      simp at this
      omega
    rw [utf8EncodeChar_of_lt hlt, List.mem_singleton] at hb
    have hnat := congrArg UInt8.toNat hb
    simp only [UInt8.toNat_ofNat'] at hnat
    have : c = d := Char.toNat_inj.1 (by omega)
    rwa [this]
  · exact fun hc => ⟨c, hc, by rw [utf8EncodeChar_of_lt h]; exact List.mem_singleton_self _⟩

end BulkSuppress.Utf8
