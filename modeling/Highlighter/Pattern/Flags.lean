import Highlighter.Pattern.Error

/-!
# Flags of a pattern

The flags in force where a part of a pattern stands, and the lists of flags
that change them, as in `(?i-s)`.
-/

set_option autoImplicit false

namespace Highlighter

structure Flags where
  ignoreCase : Bool
  multiLine : Bool
  dotAll : Bool
  /-- Repetitions are lazy where they look greedy, and greedy where they look lazy. -/
  swapGreed : Bool
  /-- White space and comments in the pattern mean nothing. -/
  spaced : Bool
  /-- A carriage return ends a line too. -/
  anyLineEnd : Bool
  /-- Classes, word edges and case are those of all characters and not of ASCII alone. -/
  unicode : Bool
  deriving DecidableEq, Repr

namespace Flags

/-- The flags at the start of a pattern: anchors match at lines, and all characters count. -/
def initial : Flags := ⟨false, true, false, false, false, false, true⟩

def set? (flags : Flags) (letter : Char) (value : Bool) : Except PatternError Flags :=
  match letter with
  | 'i' => .ok { flags with ignoreCase := value }
  | 'm' => .ok { flags with multiLine := value }
  | 's' => .ok { flags with dotAll := value }
  | 'U' => .ok { flags with swapGreed := value }
  | 'x' => .ok { flags with spaced := value }
  | 'R' => .ok { flags with anyLineEnd := value }
  | 'u' => .ok { flags with unicode := value }
  | _ => .error .badFlag

/-- How a list of flags ends. -/
inductive ListEnd where
  /-- With a parenthesis: the flags hold for the rest of the group. -/
  | here
  /-- With a colon: the flags hold for the group that begins. -/
  | group
  deriving DecidableEq, Repr

/-- Reads a list of flags and its end.  `seen` holds what the list has had, the latest first;
after a minus, flags are switched off.  No letter and no minus may occur twice, and a minus is
followed by a letter. -/
def readList (flags : Flags) (seen : List Char) :
    List Char → Except PatternError (Flags × ListEnd × List Char)
  | [] => .error .badFlag
  | c :: rest =>
    if c == ':' || c == ')' then
      if seen.head? == some '-' then .error .badFlag
      else if c == ':' then .ok (flags, .group, rest)
      else if seen.isEmpty then .error .nothingToRepeat
      else .ok (flags, .here, rest)
    else if seen.contains c then .error .badFlag
    else if c == '-' then readList flags (c :: seen) rest
    else
      match flags.set? c (!seen.contains '-') with
      | .ok flags => readList flags (c :: seen) rest
      | .error cause => .error cause

end Flags

end Highlighter
