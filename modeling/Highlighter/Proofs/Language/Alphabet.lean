import Highlighter.Language.Setanta
import Highlighter.Text.Blank
import Mathlib.Tactic.Common

/-!
# The characters of Setanta

The sets of characters in the patterns of the language, and what they say of a
character.
-/

set_option autoImplicit false

namespace Highlighter.Setanta

def isLetter (c : Char) : Bool :=
  c.isAlpha || accentedVowels.contains c

/-- Whether `c` is white space within a line. -/
def isLineSpace (c : Char) : Bool :=
  isBlank c && c != '\n'

/-! ## The sets -/

def letterSet : CharSet :=
  [(0x41, 0x5A), (0x61, 0x7A), (0xC1, 0xC1), (0xC9, 0xC9), (0xCD, 0xCD), (0xD3, 0xD3),
   (0xDA, 0xDA), (0xE1, 0xE1), (0xE9, 0xE9), (0xED, 0xED), (0xF3, 0xF3), (0xFA, 0xFA)]

def nameSet : CharSet := (0x24, 0x24) :: letterSet

def spaceSet : CharSet :=
  [(0x9, 0x9), (0xB, 0xD), (0x20, 0x20), (0x85, 0x85), (0xA0, 0xA0), (0x1680, 0x1680),
   (0x2000, 0x200A), (0x2028, 0x2029), (0x202F, 0x202F), (0x205F, 0x205F), (0x3000, 0x3000)]

/-- All but the line feed. -/
def inLineSet : CharSet := [(0, 0x9), (0xB, 0x10FFFF)]

def iSet : CharSet := [(0x69, 0x69), (0xED, 0xED)]

def digitSet : CharSet := [(0x30, 0x39)]

def hexDigitSet : CharSet := [(0x30, 0x39), (0x41, 0x46), (0x61, 0x66)]

/-- The letter x in both cases. -/
def xSet : CharSet := [(0x58, 0x58), (0x78, 0x78)]

/-- The letter e in both cases. -/
def eSet : CharSet := [(0x45, 0x45), (0x65, 0x65)]

def signSet : CharSet := [(0x2B, 0x2B), (0x2D, 0x2D)]

/-- What a word that opens a block may be set apart by. -/
def blockSet : CharSet := [(0x20, 0x20), (0x7B, 0x7B)]

def operatorSet : CharSet := [(0x21, 0x21), (0x2A, 0x2B), (0x2D, 0x2D), (0x2F, 0x2F), (0x3C, 0x3E)]

/-! ## What is in the sets -/

theorem isAlpha_iff (c : Char) : c.isAlpha = true ↔
    (0x41 ≤ c.toNat ∧ c.toNat ≤ 0x5A) ∨ (0x61 ≤ c.toNat ∧ c.toNat ≤ 0x7A) := by
  change (decide (c.val ≥ 'A'.val ∧ c.val ≤ 'Z'.val)
    || (decide (c.val ≥ 'a'.val) && decide (c.val ≤ 'z'.val))) = true ↔ _
  simp [UInt32.le_iff_toNat_le]

theorem letterSet_contains (c : Char) : letterSet.contains c = isLetter c := by
  rw [Bool.eq_iff_iff]
  simp [letterSet, CodeRanges.contains, isLetter, isAlpha_iff, accentedVowels, ← Char.toNat_inj]
  omega

theorem isNameChar_eq (c : Char) : isNameChar c = (isLetter c || c == '$') := rfl

theorem nameSet_contains (c : Char) : nameSet.contains c = isNameChar c := by
  have dollar : (decide (0x24 ≤ c.toNat) && decide (c.toNat ≤ 0x24)) = (c == '$') := by
    rw [Bool.eq_iff_iff]
    simp [← Char.toNat_inj]
    omega
  rw [isNameChar_eq, ← letterSet_contains, Bool.or_comm, ← dollar]
  rfl

theorem spaceSet_contains (c : Char) : spaceSet.contains c = isLineSpace c := by
  rw [Bool.eq_iff_iff]
  simp [spaceSet, CodeRanges.contains, isLineSpace, isBlank, blankRanges, ← Char.toNat_inj]
  omega

theorem inLineSet_contains (c : Char) : inLineSet.contains c = (c != '\n') := by
  have valid : c.toNat < 0x110000 := by
    rcases c.valid with low | ⟨-, high⟩
    · exact Nat.lt_trans low (by decide)
    · exact high
  rw [Bool.eq_iff_iff]
  simp [inLineSet, CodeRanges.contains, ← Char.toNat_inj]
  omega

theorem iSet_contains (c : Char) : iSet.contains c = (c == 'i' || c == 'í') := by
  rw [Bool.eq_iff_iff]
  simp [iSet, CodeRanges.contains, ← Char.toNat_inj]
  omega

theorem blockSet_contains (c : Char) : blockSet.contains c = (c == ' ' || c == '\x7b') := by
  rw [Bool.eq_iff_iff]
  simp [blockSet, CodeRanges.contains, ← Char.toNat_inj]
  omega

/-! ## Sets that have nothing in common -/

theorem not_isLineSpace_of_isNameChar {c : Char} (inName : isNameChar c = true) :
    isLineSpace c = false := by
  rw [← nameSet_contains] at inName
  rw [← spaceSet_contains]
  simp [nameSet, letterSet, CodeRanges.contains] at inName
  simp [spaceSet, CodeRanges.contains]
  omega

theorem not_isNameChar_of_isLineSpace {c : Char} (space : isLineSpace c = true) :
    isNameChar c = false := by
  by_contra inName
  rw [not_isLineSpace_of_isNameChar (eq_true_of_ne_false inName)] at space
  cases space

theorem isNameChar_of_isLetter {c : Char} (letter : isLetter c = true) : isNameChar c = true := by
  rw [isNameChar_eq, letter, Bool.true_or]

theorem not_isLetter_of_isLineSpace {c : Char} (space : isLineSpace c = true) :
    isLetter c = false := by
  by_contra letter
  have inName := isNameChar_of_isLetter (eq_true_of_ne_false letter)
  rw [not_isNameChar_of_isLineSpace space] at inName
  cases inName

/-- No number and no operator begins with a character of names. -/
theorem not_contains_of_isNameChar {c : Char} (inName : isNameChar c = true) :
    digitSet.contains c = false ∧ signSet.contains c = false ∧ operatorSet.contains c = false ∧
      c ≠ '.' := by
  rw [← nameSet_contains] at inName
  simp [nameSet, letterSet, CodeRanges.contains] at inName
  simp [digitSet, signSet, operatorSet, CodeRanges.contains, ← Char.toNat_inj]
  omega

end Highlighter.Setanta
