import Mathlib.Data.String.Basic
import Highlighter.Text.Utf8

/-!
# The order of texts and the order of their bytes

Texts are compared character by character, and their UTF-8 forms byte by byte.
Both come to the same: the forms of two characters differ in a byte that both
have, and the lesser character has the lesser byte there.
-/

set_option autoImplicit false

namespace Highlighter.Utf8

section Bytes
variable {low high : Nat}

theorem ofNat_lt_ofNat (lowBounded : low < 256) (highBounded : high < 256) :
    UInt8.ofNat low < UInt8.ofNat high ↔ low < high := by
  rw [UInt8.lt_iff_toNat_lt, UInt8.toNat_ofNat_of_lt' lowBounded,
    UInt8.toNat_ofNat_of_lt' highBounded]

theorem ofNat_eq_ofNat (lowBounded : low < 256) (highBounded : high < 256) :
    UInt8.ofNat low = UInt8.ofNat high ↔ low = high := by
  rw [← UInt8.toNat_inj, UInt8.toNat_ofNat_of_lt' lowBounded,
    UInt8.toNat_ofNat_of_lt' highBounded]

end Bytes

theorem toNat_lt (c : Char) : c.val.toNat < 0x110000 := by
  rcases c.valid with low | high
  · exact Nat.lt_trans low (by decide)
  · exact high.2

/-- Codes are compared digit by digit to the base 64. -/
theorem digits_lt {code other : Nat} (less : code < other) (bounded : other < 0x200000) :
    code / 262144 % 8 < other / 262144 % 8 ∨ code / 262144 % 8 = other / 262144 % 8 ∧
      (code / 4096 % 64 < other / 4096 % 64 ∨ code / 4096 % 64 = other / 4096 % 64 ∧
        (code / 64 % 64 < other / 64 % 64 ∨ code / 64 % 64 = other / 64 % 64 ∧
          code % 64 < other % 64)) := by
  have first : ∀ code : Nat, code < 0x200000 → code / 262144 % 8 = code / 64 / 64 / 64 := by
    omega
  have second : ∀ code : Nat, code / 4096 = code / 64 / 64 := by omega
  have split : ∀ code other : Nat, code < other →
      code / 64 < other / 64 ∨ code / 64 = other / 64 ∧ code % 64 < other % 64 := by omega
  rw [first code (Nat.lt_trans less bounded), first other bounded, second, second]
  rcases split _ _ less with less | ⟨same, last⟩
  · rcases split _ _ less with less | ⟨same, third⟩
    · rcases split _ _ less with less | ⟨same, second⟩
      · exact .inl less
      · exact .inr ⟨same, .inl second⟩
    · rw [same]
      exact .inr ⟨rfl, .inr ⟨rfl, .inl third⟩⟩
  · rw [same]
    exact .inr ⟨rfl, .inr ⟨rfl, .inr ⟨rfl, last⟩⟩⟩

/-- The bytes of the lesser character come first, whatever follows. -/
theorem encodeChar_append_lt {c d : Char} (order : c < d) (text other : List UInt8) :
    String.utf8EncodeChar c ++ text < String.utf8EncodeChar d ++ other := by
  have less : c.val.toNat < d.val.toNat := order
  have bounded := toNat_lt d
  unfold String.utf8EncodeChar
  dsimp only
  by_cases long : c.val.toNat ≤ 0xffff
  · -- One case for each pair of lengths; what is left compares digits of the two codes.
    split_ifs <;>
      simp (disch := omega) only [List.cons_append, List.nil_append, List.cons_lt_cons_iff,
        ofNat_lt_ofNat, ofNat_eq_ofNat] <;>
      omega
  · rw [if_neg (by omega), if_neg (by omega), if_neg long, if_neg (by omega), if_neg (by omega),
      if_neg (by omega)]
    simp (disch := omega) only [List.cons_append, List.nil_append, List.cons_lt_cons_iff,
      ofNat_lt_ofNat, ofNat_eq_ofNat, Nat.add_lt_add_iff_right, Nat.add_right_cancel_iff]
    rcases digits_lt less (Nat.lt_trans bounded (by decide)) with
      first | ⟨same, second | ⟨sameSecond, third | ⟨sameThird, fourth⟩⟩⟩
    · exact .inl first
    · exact .inr ⟨same, .inl second⟩
    · exact .inr ⟨same, .inr ⟨sameSecond, .inl third⟩⟩
    · exact .inr ⟨same, .inr ⟨sameSecond, .inr ⟨sameThird, .inl fourth⟩⟩⟩

theorem encode_cons (c : Char) (text : List Char) :
    encode (c :: text) = String.utf8EncodeChar c ++ encode text := rfl

theorem append_lt_append_iff (front text other : List UInt8) :
    front ++ text < front ++ other ↔ text < other := by
  induction front with
  | nil => exact Iff.rfl
  | cons byte front inductionHypothesis =>
    rw [List.cons_append, List.cons_append, List.cons_lt_cons_self, inductionHypothesis]

/-- Of two texts the one whose characters come first is the one whose bytes come first. -/
theorem encode_lt_encode {text other : List Char} (order : text < other) :
    encode text < encode other := by
  induction order with
  | @nil d rest =>
    obtain ⟨byte, bytes, form⟩ :=
      List.exists_cons_of_ne_nil (String.utf8EncodeChar_ne_nil (c := d))
    rw [encode_cons, form]
    exact List.nil_lt_cons _ _
  | cons order inductionHypothesis =>
    rw [encode_cons, encode_cons, append_lt_append_iff]
    exact inductionHypothesis
  | rel order => exact encodeChar_append_lt order _ _

theorem encode_lt_encode_iff {text other : List Char} :
    encode text < encode other ↔ text < other := by
  refine ⟨fun order => ?_, encode_lt_encode⟩
  rcases lt_trichotomy text other with less | same | greater
  · exact less
  · exact absurd (same ▸ order) (List.lt_irrefl _)
  · exact absurd order (List.lt_asymm (encode_lt_encode greater))

/-- The bytes of a name. -/
def nameBytes (name : String) : List UInt8 := encode name.toList

theorem nameBytes_lt_iff {name other : String} :
    nameBytes name < nameBytes other ↔ name < other := by
  rw [nameBytes, nameBytes, encode_lt_encode_iff, String.lt_iff_toList_lt]

end Highlighter.Utf8
