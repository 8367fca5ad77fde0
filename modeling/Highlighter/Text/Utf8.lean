/-!
# Text measured in UTF-8 bytes

Source text is a list of characters.  Offsets into it count the bytes of its
UTF-8 form, so a character takes one to four of them, and an offset can be
used to cut the text only where it lies on a boundary between characters.
-/

set_option autoImplicit false

namespace Highlighter.Utf8

def size : List Char → Nat
  | [] => 0
  | c :: rest => c.utf8Size + size rest

def encode (text : List Char) : List UInt8 :=
  text.flatMap String.utf8EncodeChar

/-- What is left of a text after `offset` bytes, if they end on a boundary. -/
def drop? : Nat → List Char → Option (List Char)
  | 0, text => some text
  | _ + 1, [] => none
  | offset + 1, c :: rest =>
    if c.utf8Size ≤ offset + 1 then drop? (offset + 1 - c.utf8Size) rest else none

/-- The first `count` bytes of a text, if they end on a boundary. -/
def take? : Nat → List Char → Option (List Char)
  | 0, _ => some []
  | _ + 1, [] => none
  | count + 1, c :: rest =>
    if c.utf8Size ≤ count + 1 then
      (take? (count + 1 - c.utf8Size) rest).map (c :: ·)
    else none

/-- The text from offset `start` to offset `stop`, if both are boundaries in that order. -/
def slice? (text : List Char) (start stop : Nat) : Option (List Char) :=
  if start ≤ stop then (drop? start text).bind (take? (stop - start)) else none

/-- No character of a text has bytes on both sides of an offset that lies within the text. -/
def isBoundary (text : List Char) (offset : Nat) : Bool :=
  (drop? offset text).isSome

/-- The boundary that one comes to from an offset, going back byte by byte. -/
def stepBack (text : List Char) : Nat → Nat
  | 0 => 0
  | offset + 1 => if isBoundary text (offset + 1) then offset + 1 else stepBack text offset

@[simp] theorem size_nil : size [] = 0 := rfl

@[simp] theorem size_cons (c : Char) (rest : List Char) :
    size (c :: rest) = c.utf8Size + size rest := rfl

@[simp] theorem size_append (first second : List Char) :
    size (first ++ second) = size first + size second := by
  induction first with
  | nil => simp
  | cons c rest inductionHypothesis => simp [inductionHypothesis, Nat.add_assoc]

theorem size_take_add_drop (count : Nat) (text : List Char) :
    size (text.take count) + size (text.drop count) = size text := by
  rw [← size_append, List.take_append_drop]

/-- The end of a piece of text is a boundary, and the text after it is left there. -/
@[simp] theorem drop?_size_append (first second : List Char) :
    drop? (size first) (first ++ second) = some second := by
  induction first with
  | nil => simp [drop?]
  | cons c rest inductionHypothesis =>
    have positive : 0 < c.utf8Size := c.utf8Size_pos
    obtain ⟨count, total⟩ : ∃ count, size (c :: rest) = count + 1 :=
      ⟨size (c :: rest) - 1, by simp only [size_cons]; omega⟩
    have fits : c.utf8Size ≤ count + 1 := by simp only [size_cons] at total; omega
    have remains : count + 1 - c.utf8Size = size rest := by
      simp only [size_cons] at total; omega
    rw [total, List.cons_append, drop?, if_pos fits, remains, inductionHypothesis]

/-- As many bytes as a piece of text has are that piece. -/
@[simp] theorem take?_size_append (first second : List Char) :
    take? (size first) (first ++ second) = some first := by
  induction first with
  | nil => simp [take?]
  | cons c rest inductionHypothesis =>
    have positive : 0 < c.utf8Size := c.utf8Size_pos
    obtain ⟨count, total⟩ : ∃ count, size (c :: rest) = count + 1 :=
      ⟨size (c :: rest) - 1, by simp only [size_cons]; omega⟩
    have fits : c.utf8Size ≤ count + 1 := by simp only [size_cons] at total; omega
    have remains : count + 1 - c.utf8Size = size rest := by
      simp only [size_cons] at total; omega
    rw [total, List.cons_append, take?, if_pos fits, remains, inductionHypothesis]
    rfl

/-- The middle of three pieces of text lies between the sizes of what comes before its ends. -/
theorem slice?_size_append (first second third : List Char) :
    slice? (first ++ (second ++ third)) (size first) (size first + size second)
      = some second := by
  simp [slice?]

end Highlighter.Utf8
