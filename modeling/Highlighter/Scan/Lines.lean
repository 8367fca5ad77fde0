import Highlighter.Scan.Steps

/-!
# Tokens line by line

A text can be divided one line at a time, as an editor does that looks again at
the line that was changed.  A line ends with its line feed.
-/

set_option autoImplicit false

namespace Highlighter

structure Line where
  index : Nat
  start : Nat
  /-- The tokens, placed in the whole text. -/
  tokens : List Token
  deriving DecidableEq, Repr

namespace Line

/-- The lines of a text, each with the line feed that ends it. -/
def split : List Char → List (List Char)
  | [] => []
  | c :: rest =>
    if c = '\n' then [c] :: split rest
    else
      match split rest with
      | [] => [[c]]
      | line :: lines => (c :: line) :: lines

end Line

namespace RuleTable

/-- The tokens of a line of a text, given how many lines and bytes come before it. -/
def line (table : RuleTable) (index offset : Nat) (text : List Char) : Line :=
  ⟨index, offset, (table.tokens text).map (·.shift offset)⟩

def linesFrom (table : RuleTable) (index offset : Nat) : List (List Char) → List Line
  | [] => []
  | text :: rest =>
    table.line index offset text
      :: table.linesFrom (index + 1) (offset + Utf8.size text) rest

def lines (table : RuleTable) (text : List Char) : List Line :=
  table.linesFrom 0 0 (Line.split text)

end RuleTable

/-- A text that is being divided line by line. -/
structure LineStream where
  table : RuleTable
  /-- The number of lines handed out. -/
  index : Nat
  offset : Nat
  /-- The lines not handed out. -/
  rest : List (List Char)

namespace LineStream

def start (table : RuleTable) (text : List Char) : LineStream :=
  ⟨table, 0, 0, Line.split text⟩

/-- Hands out the next line, if there is one. -/
def next (stream : LineStream) : Option Line × LineStream :=
  match stream.rest with
  | [] => (none, stream)
  | text :: rest =>
    (some (stream.table.line stream.index stream.offset text),
      { stream with
        index := stream.index + 1
        offset := stream.offset + Utf8.size text
        rest })

theorem next_decreases {stream following : LineStream} {line : Line}
    (handed : stream.next = (some line, following)) :
    following.rest.length < stream.rest.length := by
  obtain ⟨table, index, offset, rest⟩ := stream
  cases rest with
  | nil => cases handed
  | cons text rest =>
    cases handed
    exact Nat.lt_succ_self _

/-- Hands out all lines that are left. -/
def drain (stream : LineStream) : List Line × LineStream :=
  match _ : stream.next with
  | (none, stream) => ([], stream)
  | (some line, following) =>
    let (lines, stream) := following.drain
    (line :: lines, stream)
termination_by stream.rest.length
decreasing_by exact next_decreases ‹_›

end LineStream

end Highlighter
