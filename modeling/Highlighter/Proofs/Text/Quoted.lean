import Highlighter.Text.Hex
import Highlighter.Text.Quoted
import Mathlib.Data.Nat.Init

/-!
# Quoted text is read again

Between its quote marks a quoted text shows each character by itself, by a letter
behind a backslash or by its code.  The three can be told apart, so a reader finds
the text again, whatever it holds.
-/

set_option autoImplicit false

namespace Highlighter

/-! ## Digits -/

theorem Hex.digit?_digitChar : ∀ digit < 16, Hex.digit? (Nat.digitChar digit) = some digit := by
  decide

theorem Hex.value_append (digits : List Char) (c : Char) :
    Hex.value (digits ++ [c]) = 16 * Hex.value digits + (Hex.digit? c).getD 0 := by
  simp [Hex.value]

theorem Hex.value_toDigits (number : Nat) : Hex.value (Nat.toDigits 16 number) = number := by
  induction number using Nat.strong_induction_on with
  | _ number inductionHypothesis =>
    by_cases small : number < 16
    · rw [Nat.toDigits_of_lt_base small]
      simp [Hex.value, Hex.digit?_digitChar number small]
    · have last := Hex.digit?_digitChar (number % 16) (Nat.mod_lt _ (by decide))
      rw [Nat.toDigits_of_base_le (by decide) (by omega), Hex.value_append,
        inductionHypothesis (number / 16) (by omega), last]
      simp only [Option.getD_some]
      omega

theorem exists_digit_of_mem_toDigits {base : Nat} (large : 1 < base) {c : Char} (number : Nat) :
    c ∈ Nat.toDigits base number → ∃ digit < base, c = Nat.digitChar digit := by
  induction number using Nat.strong_induction_on with
  | _ number inductionHypothesis =>
    intro member
    by_cases small : number < base
    · rw [Nat.toDigits_of_lt_base small] at member
      exact ⟨number, small, List.mem_singleton.mp member⟩
    · rw [Nat.toDigits_of_base_le large (by omega)] at member
      rcases List.mem_append.mp member with front | last
      · exact inductionHypothesis _ (Nat.div_lt_self (by omega) large) front
      · exact ⟨number % base, Nat.mod_lt _ (by omega), List.mem_singleton.mp last⟩

namespace Quoted

/-- A text in quote marks. -/
def encode (text : List Char) : List Char :=
  ['"'] ++ text.flatMap (encodeChar '"') ++ ['"']

/-! ## Reading -/

/-- What a reader of quoted text is in the midst of. -/
inductive Mode where
  | text
  /-- Behind a backslash. -/
  | escape
  /-- Behind the letter that announces a code. -/
  | announced
  /-- Behind the brace that opens a code and the given digits. -/
  | code (digits : List Char)
  deriving DecidableEq, Repr

/-- The character that a letter behind a backslash stands for. -/
def escaped? : Char → Option Char
  | 't' => some '\t'
  | 'n' => some '\n'
  | 'r' => some '\r'
  | '0' => some '\x00'
  | '\\' => some '\\'
  | '"' => some '"'
  | _ => none

/-- The character with the code that digits of base sixteen write. -/
def ofCode? (digits : List Char) : Option Char :=
  if digits ≠ [] ∧ digits.all Hex.isDigit ∧ (Hex.value digits).isValidChar then
    some (Char.ofNat (Hex.value digits))
  else none

def readFrom : Mode → List Char → Option (List Char)
  | _, [] => none
  | .text, c :: rest =>
    if c = '"' then if rest = [] then some [] else none
    else if c = '\\' then readFrom .escape rest
    else (readFrom .text rest).map (c :: ·)
  | .escape, c :: rest =>
    if c = 'u' then readFrom .announced rest
    else (escaped? c).bind fun d => (readFrom .text rest).map (d :: ·)
  | .announced, c :: rest => if c = '\x7b' then readFrom (.code []) rest else none
  | .code digits, c :: rest =>
    if c = '\x7d' then (ofCode? digits).bind fun d => (readFrom .text rest).map (d :: ·)
    else readFrom (.code (digits ++ [c])) rest

/-- The text that a quoted text shows. -/
def decode? : List Char → Option (List Char)
  | [] => none
  | c :: rest => if c = '"' then readFrom .text rest else none

/-! ## Characters -/

/-- A character is shown by itself, by a letter or by its code. -/
theorem encodeChar_cases (c : Char) :
    (encodeChar '"' c = [c] ∧ c ∉ ['\t', '\n', '\\', '"']) ∨
      (∃ letter, encodeChar '"' c = ['\\', letter] ∧ escaped? letter = some c) ∨
      encodeChar '"' c = ['\\', 'u', '\x7b'] ++ code c ++ ['\x7d'] := by
  by_cases lettered : c ∈ ['\t', '\n', '\r', '\x00', '\\', '"']
  · refine .inr (.inl ?_)
    simp only [List.mem_cons, List.not_mem_nil, or_false] at lettered
    rcases lettered with rfl | rfl | rfl | rfl | rfl | rfl
    · exact ⟨'t', by decide, rfl⟩
    · exact ⟨'n', by decide, rfl⟩
    · exact ⟨'r', by decide, rfl⟩
    · exact ⟨'0', by decide, rfl⟩
    · exact ⟨'\\', by decide, rfl⟩
    · exact ⟨'"', by decide, rfl⟩
  · simp only [List.mem_cons, List.not_mem_nil, or_false, not_or] at lettered
    by_cases shown : isShown c
    · exact .inl ⟨by simp [encodeChar, lettered, shown], by simp [lettered]⟩
    · exact .inr (.inr (by simp [encodeChar, lettered, shown]))

/-- A form of one character is the character itself. -/
theorem encodeChar_of_length {c : Char} (single : (encodeChar '"' c).length = 1) :
    encodeChar '"' c = [c] := by
  rcases encodeChar_cases c with ⟨form, -⟩ | ⟨letter, form, -⟩ | form
  · exact form
  · simp [form] at single
  · simp [form] at single

theorem isDigit_of_mem_code {c d : Char} (member : d ∈ code c) : Hex.isDigit d := by
  obtain ⟨digit, small, rfl⟩ := exists_digit_of_mem_toDigits (by decide) c.toNat member
  simp [Hex.isDigit, Hex.digit?_digitChar digit small]

theorem ofCode?_code (c : Char) : ofCode? (code c) = some c := by
  have value : Hex.value (code c) = c.toNat := Hex.value_toDigits c.toNat
  have digits : (code c).all Hex.isDigit := List.all_eq_true.mpr fun _ => isDigit_of_mem_code
  have valid : c.toNat.isValidChar := c.valid
  have some_digit : code c ≠ [] := Nat.toDigits_ne_nil
  rw [ofCode?, value, if_pos ⟨some_digit, digits, valid⟩, Char.ofNat_toNat]

theorem readFrom_code (read digits rest : List Char) (inside : '\x7d' ∉ digits) :
    readFrom (.code read) (digits ++ '\x7d' :: rest) =
      (ofCode? (read ++ digits)).bind fun c => (readFrom .text rest).map (c :: ·) := by
  induction digits generalizing read with
  | nil => simp [readFrom]
  | cons d digits inductionHypothesis =>
    rw [List.mem_cons, not_or] at inside
    simp [readFrom, Ne.symm inside.1, inductionHypothesis (read ++ [d]) inside.2]

/-- A reader takes the form of a character for that character, whatever follows. -/
theorem readFrom_encodeChar (c : Char) (rest : List Char) :
    readFrom .text (encodeChar '"' c ++ rest) = (readFrom .text rest).map (c :: ·) := by
  rcases encodeChar_cases c with ⟨form, plain⟩ | ⟨letter, form, escape⟩ | form
  · simp only [List.mem_cons, List.not_mem_nil, or_false, not_or] at plain
    simp [form, readFrom, plain]
  · have announces : letter ≠ 'u' := by
      rintro rfl
      simp [escaped?] at escape
    simp [form, readFrom, announces, escape]
  · have inside : '\x7d' ∉ code c := fun member => absurd (isDigit_of_mem_code member) (by decide)
    simp [form, readFrom, readFrom_code [] _ rest inside, ofCode?_code]

/-- A text is read from its quoted form. -/
theorem decode?_encode (text : List Char) : decode? (encode text) = some text := by
  have inner (rest : List Char) :
      readFrom .text (text.flatMap (encodeChar '"') ++ rest) =
        (readFrom .text rest).map (text ++ ·) := by
    induction text with
    | nil => simp
    | cons c text inductionHypothesis =>
      rw [List.flatMap_cons, List.append_assoc, readFrom_encodeChar, inductionHypothesis]
      simp [Function.comp_def]
  simp [encode, decode?, inner, readFrom]

theorem not_mem_encodeChar {c : Char} (separates : c = '\t' ∨ c = '\n') (d : Char) :
    c ∉ encodeChar '"' d := by
  have apart : c ∉ ['\\', 'u', '\x7b', '\x7d'] ∧ escaped? c = none ∧ ¬ Hex.isDigit c := by
    rcases separates with rfl | rfl <;> decide
  obtain ⟨mark, noLetter, noDigit⟩ := apart
  rcases encodeChar_cases d with ⟨form, plain⟩ | ⟨letter, form, escape⟩ | form
  · rw [form, List.mem_singleton]
    rintro rfl
    rcases separates with rfl | rfl <;> simp at plain
  · have other : c ≠ letter := by
      rintro rfl
      simp [noLetter] at escape
    simp_all
  · have inside : c ∉ code d := fun member => noDigit (isDigit_of_mem_code member)
    simp_all

/-- A quoted text stays on its line and in its column. -/
theorem not_mem_encode {c : Char} (separates : c = '\t' ∨ c = '\n') (text : List Char) :
    c ∉ encode text := by
  have mark : c ≠ '"' := by rcases separates with rfl | rfl <;> decide
  simp [encode, not_mem_encodeChar separates, mark]

end Quoted

end Highlighter
