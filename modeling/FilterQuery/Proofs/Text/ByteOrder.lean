/-!
# The order of bytes

Names are sorted by their characters. Written in UTF-8 they are sorted by their bytes in the same
way: the first byte of a character grows with the number of bytes that follow it, so that characters
of different lengths are told apart by their first bytes, and characters of the same length are
numbers in groups of six bits, the highest first.
-/

namespace FilterQuery.Text

/-- The bytes of a text in UTF-8. -/
def bytes (s : String) : List UInt8 := s.toUTF8.data.toList

/-! ### Characters -/

/-- The bytes of a code point. Each byte behind the first stands for six bits. -/
inductive EncodedAs : Nat → List UInt8 → Prop
  | one {a : Nat} (ha : a < 128) : EncodedAs a [.ofNat a]
  | two {a b : Nat} (ha : a < 32) (hb : b < 64) (h : 128 ≤ 64 * a + b) :
    EncodedAs (64 * a + b) [.ofNat (a + 192), .ofNat (b + 128)]
  | three {a b c : Nat} (ha : a < 16) (hb : b < 64) (hc : c < 64)
    (h : 2048 ≤ 4096 * a + 64 * b + c) :
    EncodedAs (4096 * a + 64 * b + c) [.ofNat (a + 224), .ofNat (b + 128), .ofNat (c + 128)]
  | four {a b c d : Nat} (ha : a < 8) (hb : b < 64) (hc : c < 64) (hd : d < 64)
    (h : 65536 ≤ 262144 * a + 4096 * b + 64 * c + d) :
    EncodedAs (262144 * a + 4096 * b + 64 * c + d)
      [.ofNat (a + 240), .ofNat (b + 128), .ofNat (c + 128), .ofNat (d + 128)]

theorem encodedAs_utf8EncodeChar (c : Char) : EncodedAs c.val.toNat (String.utf8EncodeChar c) := by
  have hmax : c.val.toNat < 1114112 := by
    have hvalid := c.valid
    simp only [UInt32.isValidChar, Nat.isValidChar] at hvalid
    omega
  rw [String.utf8EncodeChar]
  generalize c.val.toNat = v at hmax ⊢
  by_cases h₁ : v ≤ 127
  · rw [if_pos h₁]
    exact .one (by omega)
  rw [if_neg h₁]
  by_cases h₂ : v ≤ 2047
  · rw [if_pos h₂]
    have hv : 64 * (v / 64 % 32) + v % 64 = v := by omega
    have h := EncodedAs.two (a := v / 64 % 32) (b := v % 64) (by omega) (by omega) (by omega)
    rwa [hv] at h
  rw [if_neg h₂]
  by_cases h₃ : v ≤ 65535
  · rw [if_pos h₃]
    have hv : 4096 * (v / 4096 % 16) + 64 * (v / 64 % 64) + v % 64 = v := by omega
    have h := EncodedAs.three (a := v / 4096 % 16) (b := v / 64 % 64) (c := v % 64) (by omega)
      (by omega) (by omega) (by omega)
    rwa [hv] at h
  · rw [if_neg h₃]
    have hv : 262144 * (v / 262144 % 8) + 4096 * (v / 4096 % 64) + 64 * (v / 64 % 64) + v % 64 =
        v := by omega
    have h := EncodedAs.four (a := v / 262144 % 8) (b := v / 4096 % 64) (c := v / 64 % 64)
      (d := v % 64) (by omega) (by omega) (by omega) (by omega) (by omega)
    rwa [hv] at h

/-- A smaller code point has smaller bytes, whatever follows them. -/
theorem EncodedAs.append_lt {v w : Nat} {s t : List UInt8} (hv : EncodedAs v s)
    (hw : EncodedAs w t) (h : v < w) (s' t' : List UInt8) : s ++ s' < t ++ t' := by
  cases hv <;> cases hw <;>
    simp only [List.cons_append, List.nil_append, List.cons_lt_cons_iff, UInt8.lt_iff_toNat_lt,
      ← UInt8.toNat_inj, UInt8.toNat_ofNat'] <;>
    omega

/-! ### Texts -/

theorem bytes_eq_flatMap (s : String) : bytes s = s.toList.flatMap String.utf8EncodeChar := by
  rw [bytes, String.toUTF8, ← String.utf8Encode_toList, List.utf8Encode,
    List.toList_data_toByteArray]

theorem flatMap_utf8EncodeChar_lt {cs ds : List Char} (h : cs < ds) :
    cs.flatMap String.utf8EncodeChar < ds.flatMap String.utf8EncodeChar := by
  induction h with
  | @nil d ds =>
    obtain ⟨b, bs, hb⟩ := List.exists_cons_of_ne_nil (String.utf8EncodeChar_ne_nil (c := d))
    rw [List.flatMap_nil, List.flatMap_cons, hb]
    exact List.nil_lt_cons b _
  | rel h =>
    rw [List.flatMap_cons, List.flatMap_cons]
    exact (encodedAs_utf8EncodeChar _).append_lt (encodedAs_utf8EncodeChar _) h _ _
  | cons _ ih =>
    rw [List.flatMap_cons, List.flatMap_cons]
    exact List.append_left_lt ih

theorem bytes_lt_bytes {s t : String} (h : s < t) : bytes s < bytes t := by
  rw [bytes_eq_flatMap, bytes_eq_flatMap]
  exact flatMap_utf8EncodeChar_lt h

/-- Texts are in the same order as their bytes. -/
theorem bytes_le_bytes_iff {s t : String} : bytes s ≤ bytes t ↔ s ≤ t := by
  constructor
  · intro h
    rw [← String.not_lt]
    intro hlt
    exact h (bytes_lt_bytes hlt)
  · intro h
    by_cases heq : s = t
    · rw [heq]
      exact List.le_refl _
    · have hlt : s < t := String.not_le.1 fun hle => heq (String.le_antisymm h hle)
      exact List.le_of_lt (bytes_lt_bytes hlt)

end FilterQuery.Text
