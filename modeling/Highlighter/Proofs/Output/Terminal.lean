import Highlighter.Theme.Style

/-!
# What a terminal shows

A terminal draws each character in its current style, and control sequences
change the style.  A sequence is opened by an escape character and a bracket,
lists numbers and ends with a letter, which is `m` where the numbers choose
styles.  Texts that are shown one after the other are read in the style that the
text before has left.
-/

set_option autoImplicit false

namespace Highlighter

/-- A character as it is shown. -/
structure Cell where
  character : Char
  style : Style
  deriving DecidableEq, Repr

/-- What a terminal is in the midst of reading. -/
inductive Terminal.Mode where
  | text
  | escape
  /-- A control sequence, of which the given characters have been read. -/
  | sequence (read : List Char)
  deriving DecidableEq, Repr

/-- A terminal with sixteen colours. -/
structure Terminal where
  style : Style
  mode : Terminal.Mode
  deriving DecidableEq, Repr

namespace Terminal

def initial : Terminal := ⟨.default, .text⟩

/-- The colours by their numbers. -/
def palette : List Color :=
  Hue.all.map .normal ++ Hue.all.map .bright

/-- The style after the numbers of a sequence that chooses styles.  A number behind the palette
leaves the colour as it is. -/
def select : List Nat → Style → Style
  | [], style => style
  | 38 :: 5 :: number :: rest, style =>
    select rest { style with foreground := palette[number]?.getD style.foreground }
  | 48 :: 5 :: number :: rest, style =>
    select rest { style with background := palette[number]?.getD style.background }
  | 0 :: rest, _ => select rest .default
  | 1 :: rest, style => select rest { style with bold := true }
  | 3 :: rest, style => select rest { style with italic := true }
  | 4 :: rest, style => select rest { style with underline := true }
  | _ :: rest, style => select rest style

/-- The numbers between semicolons, of which the first goes on from `number`.  Where there is no
digit the number is 0. -/
def numbers (number : Nat) : List Char → List Nat
  | [] => [number]
  | c :: rest =>
    if c = ';' then number :: numbers 0 rest
    else numbers (10 * number + (c.toNat - '0'.toNat)) rest

/-- The characters that a control sequence ends with. -/
def isFinal (c : Char) : Bool :=
  '@'.toNat ≤ c.toNat && c.toNat ≤ '~'.toNat

/-- Reads a character, which is shown unless it belongs to a control sequence. -/
def take (terminal : Terminal) (c : Char) : Option Cell × Terminal :=
  match terminal.mode with
  | .text =>
    if c = '\x1b' then (none, { terminal with mode := .escape })
    else (some ⟨c, terminal.style⟩, terminal)
  | .escape => (none, { terminal with mode := if c = '[' then .sequence [] else .text })
  | .sequence read =>
    if isFinal c then
      (none, ⟨if c = 'm' then select (numbers 0 read) terminal.style else terminal.style, .text⟩)
    else (none, { terminal with mode := .sequence (read ++ [c]) })

/-- The characters shown while a text is read, and the terminal after it. -/
def read (terminal : Terminal) : List Char → List Cell × Terminal
  | [] => ([], terminal)
  | c :: rest =>
    let later := (terminal.take c).2.read rest
    ((terminal.take c).1.toList ++ later.1, later.2)

/-- What is shown of bytes and the terminal after them, if they are the bytes of a text. -/
def shown? (bytes : List UInt8) : Option (List Cell × Terminal) :=
  (String.fromUTF8? bytes.toByteArray).map fun text => initial.read text.toList

theorem read_append (terminal : Terminal) (first second : List Char) :
    terminal.read (first ++ second)
      = ((terminal.read first).1 ++ ((terminal.read first).2.read second).1,
          ((terminal.read first).2.read second).2) := by
  induction first generalizing terminal with
  | nil => simp [read]
  | cons c first inductionHypothesis => simp [read, inductionHypothesis]

theorem numbers_append (number : Nat) (first second : List Char) :
    numbers number (first ++ ';' :: second) = numbers number first ++ numbers 0 second := by
  induction first generalizing number with
  | nil => simp [numbers]
  | cons c first inductionHypothesis =>
    by_cases ends : c = ';'
    · simp [numbers, ends, inductionHypothesis]
    · simp [numbers, ends, inductionHypothesis]

/-! ## Texts that leave no sequence open -/

/-- In the style `before`, a text is shown as `cells` and leaves the style `after`. -/
def Shows (before : Style) (text : List Char) (cells : List Cell) (after : Style) : Prop :=
  read ⟨before, .text⟩ text = (cells, ⟨after, .text⟩)

namespace Shows

variable {before middle after : Style} {text more : List Char} {cells others : List Cell}

theorem nil (style : Style) : Shows style [] [] style := rfl

theorem append (first : Shows before text cells middle) (second : Shows middle more others after) :
    Shows before (text ++ more) (cells ++ others) after := by
  unfold Shows at first second ⊢
  rw [read_append, first, second]

/-- Text without an escape character is shown as it is. -/
theorem bare (style : Style) (plain : '\x1b' ∉ text) :
    Shows style text (text.map fun c => ⟨c, style⟩) style := by
  induction text with
  | nil => exact nil style
  | cons c text inductionHypothesis =>
    rw [List.mem_cons, not_or] at plain
    have later := inductionHypothesis plain.2
    have shown : take ⟨style, .text⟩ c = (some ⟨c, style⟩, ⟨style, .text⟩) := by
      simp [take, Ne.symm plain.1]
    unfold Shows at later ⊢
    simp [read, shown, later]

theorem parameters (style : Style) (start : List Char) (inside : text.any isFinal = false) :
    read ⟨style, .sequence start⟩ (text ++ ['m'])
      = ([], ⟨select (numbers 0 (start ++ text)) style, .text⟩) := by
  induction text generalizing start with
  | nil =>
    have final : isFinal 'm' = true := rfl
    simp [read, take, final]
  | cons c text inductionHypothesis =>
    rw [List.any_cons, Bool.or_eq_false_iff] at inside
    obtain ⟨own, others⟩ := inside
    have later := inductionHypothesis (start ++ [c]) others
    have kept : take ⟨style, .sequence start⟩ c = (none, ⟨style, .sequence (start ++ [c])⟩) := by
      simp [take, own]
    simp [read, kept, later]

/-- A sequence that chooses styles shows nothing. -/
theorem sequence (style : Style) (inside : text.any isFinal = false) :
    Shows style (['\x1b', '['] ++ text ++ ['m']) [] (select (numbers 0 text) style) := by
  have ends := parameters style [] inside
  unfold Shows
  simp only [List.cons_append, List.nil_append] at ends ⊢
  simp [read, take, ends]

end Shows

end Terminal

end Highlighter
