import Highlighter.Text.Utf8
import Highlighter.Text.Width

/-!
# Positions

The line and the column of a place in a text, both counted from one.  A column
is counted in terminal cells, so a wide character moves it by two.
-/

set_option autoImplicit false

namespace Highlighter

structure Position where
  line : Nat
  column : Nat
  deriving DecidableEq, Repr

namespace Position

def start : Position := ⟨1, 1⟩

/-- The position after a character, given the widths of characters. -/
def step (width : Char → Nat) (position : Position) (c : Char) : Position :=
  if c = '\n' then ⟨position.line + 1, 1⟩
  else ⟨position.line, position.column + width c⟩

/-- The position after a piece of text, given the widths of characters. -/
def walk (width : Char → Nat) (position : Position) (segment : List Char) : Position :=
  segment.foldl (step width) position

def after (position : Position) (segment : List Char) : Position :=
  position.walk displayWidth segment

/-- The position of a byte of a text, given the widths of characters.  An offset inside a character
counts as the start of the character, and one past the end as the end. -/
def ofOffsetWith (width : Char → Nat) (text : List Char) (offset : Nat) : Position :=
  match Utf8.take? (Utf8.stepBack text (min offset (Utf8.size text))) text with
  | some front => start.walk width front
  -- Never the case, since the cut is at a boundary.
  | none => start

/-- The position of a byte of a text. -/
def ofOffset (text : List Char) (offset : Nat) : Position :=
  ofOffsetWith displayWidth text offset

/-- Positions are in order by line first and by column second. -/
def compare (left right : Position) : Ordering :=
  (Ord.compare left.line right.line).then (Ord.compare left.column right.column)

def format (position : Position) : List Char :=
  Nat.toDigits 10 position.line ++ [':'] ++ Nat.toDigits 10 position.column

@[simp] theorem walk_nil (width : Char → Nat) (position : Position) :
    position.walk width [] = position := rfl

@[simp] theorem walk_cons (width : Char → Nat) (position : Position) (c : Char)
    (rest : List Char) :
    position.walk width (c :: rest) = (step width position c).walk width rest := rfl

/-- Walking over a text in two pieces leads to the same place. -/
theorem walk_append (width : Char → Nat) (position : Position) (first second : List Char) :
    position.walk width (first ++ second) = (position.walk width first).walk width second :=
  List.foldl_append

end Position

end Highlighter
