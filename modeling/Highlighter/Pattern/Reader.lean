import Highlighter.Pattern.Bracket
import Highlighter.Text.NameChar

/-!
# Reading a pattern text

A pattern text is read from left to right.  What has been read of the group
that is open, and of each group around it, is kept as the branches that are
complete and the items of the branch in hand.  Of each is known also how deep
the text is nested in it: a group, a repetition and a class are one level
each, and so are several items in a row and several branches.
-/

set_option autoImplicit false

namespace Highlighter

namespace PatternText

/-- An expression that has been read, and how deep its text is nested. -/
structure Item where
  expr : Expr
  depth : Nat

namespace Item

def combine (make : List Expr → Expr) (items : List Item) : Item :=
  let depth := (items.map Item.depth).foldl max 0
  ⟨make (items.map Item.expr), if 2 ≤ items.length then depth + 1 else depth⟩

end Item

/-- The branches of a group that has not been closed yet. -/
structure OpenGroup where
  /-- The number of a group that captures. -/
  number : Option Nat
  outerFlags : Flags
  /-- The branches that are complete, the latest first. -/
  branches : List Item
  /-- The items of the branch in hand, the latest first. -/
  items : List Item
  /-- Whether the last thing read can be repeated. -/
  repeatable : Bool

namespace OpenGroup

/-- A group of which nothing has been read. -/
def fresh (number : Option Nat) (outerFlags : Flags) : OpenGroup :=
  ⟨number, outerFlags, [], [], false⟩

def add (group : OpenGroup) (item : Item) : OpenGroup :=
  { group with items := item :: group.items, repeatable := true }

/-- Adds what matches nothing but sets flags. -/
def addFlags (group : OpenGroup) : OpenGroup :=
  { group with items := ⟨.empty, 0⟩ :: group.items, repeatable := false }

def branch (group : OpenGroup) : OpenGroup :=
  { group with
    branches := .combine .sequence group.items.reverse :: group.branches
    items := []
    repeatable := false }

/-- What the branches of a group match that is complete. -/
def body (group : OpenGroup) : Item :=
  .combine .choice group.branch.branches.reverse

/-- What a group matches that is complete. -/
def close (group : OpenGroup) : Item :=
  let body := group.body
  match group.number with
  | some number => ⟨.group number body.expr, body.depth + 1⟩
  | none => ⟨body.expr, body.depth + 1⟩

end OpenGroup

/-- What has been read of a pattern. -/
structure State where
  flags : Flags
  current : OpenGroup
  /-- The groups around it, the innermost first. -/
  around : List OpenGroup
  /-- How many capturing groups have been opened. -/
  groups : Nat
  names : List (List Char)

namespace State

/-- Nothing has been read. -/
def initial : State := ⟨.initial, .fresh none .initial, [], 0, []⟩

def add (state : State) (expr : Expr) (depth : Nat) : State :=
  { state with current := state.current.add ⟨expr, depth⟩ }

/-- Opens a group, within which `flags` hold. -/
def openGroup (state : State) (number : Option Nat) (flags : Flags) : State :=
  { state with
    flags
    current := .fresh number state.flags
    around := state.current :: state.around }

def openCapture (state : State) : State :=
  { state with groups := state.groups + 1 }.openGroup (some (state.groups + 1)) state.flags

/-- Repeats the last item. -/
def repeatLast (state : State) (least : Nat) (most : Option Nat) (greedy : Bool) :
    Except PatternError State :=
  match state.current.repeatable, state.current.items with
  | true, last :: items =>
    let expr := Expr.repetition least most (greedy != state.flags.swapGreed) last.expr
    .ok { state with current := { state.current with items }.add ⟨expr, last.depth + 1⟩ }
  | _, _ => .error .nothingToRepeat

/-- One character as the flags in force read it. -/
def literal (state : State) (c : Char) : Expr :=
  .ofSet (folded state.flags (.single c))

def dot (state : State) : Except PatternError Expr :=
  if !state.flags.unicode then .error .notAscii
  else if state.flags.dotAll then .ok (.chars .everything)
  else if state.flags.anyLineEnd then .ok (.chars .exceptLineEnds)
  else .ok (.chars .exceptNewline)

def startAnchor (state : State) : Expr :=
  .check <|
    if !state.flags.multiLine then .textStart
    else if state.flags.anyLineEnd then .anyLineStart
    else .lineStart

def endAnchor (state : State) : Expr :=
  .check <|
    if !state.flags.multiLine then .textEnd
    else if state.flags.anyLineEnd then .anyLineEnd
    else .lineEnd

end State

/-- A question mark directly after a repetition makes it lazy. -/
def readLazy : List Char → Bool × List Char
  | '?' :: rest => (false, rest)
  | rest => (true, rest)

/-- Whether `c` can stand in the name of a group. -/
def isNameChar (isFirst : Bool) (c : Char) : Bool :=
  c == '_' || isLetter c ||
    (!isFirst && (isNumber c || c == '.' || c == '[' || c == ']'))

/-- The name of a group up to its closing angle bracket. -/
def readName (name : List Char) : List Char → Except PatternError (List Char × List Char)
  | [] => .error .badGroupName
  | c :: rest =>
    if c == '>' then
      if name.isEmpty then .error .badGroupName else .ok (name.reverse, rest)
    else if isNameChar name.isEmpty c then readName (c :: name) rest
    else .error .badGroupName

/-- Opens a named group after the bracket that begins its name. -/
def readNamedGroup (state : State) (text : List Char) :
    Except PatternError (State × List Char) := do
  let (name, rest) ← readName [] text
  if state.names.contains name then throw .duplicateGroupName
  return ({ state with names := name :: state.names }.openCapture, rest)

/-- Reads what follows an opening parenthesis: a group, or flags for the rest of this one. -/
def readGroup (state : State) (text : List Char) : Except PatternError (State × List Char) :=
  match skip state.flags text with
  | '?' :: '=' :: _ => .error .lookAround
  | '?' :: '!' :: _ => .error .lookAround
  | '?' :: '<' :: '=' :: _ => .error .lookAround
  | '?' :: '<' :: '!' :: _ => .error .lookAround
  | '?' :: 'P' :: '<' :: rest => readNamedGroup state rest
  | '?' :: '<' :: rest => readNamedGroup state rest
  | '?' :: rest => do
    match ← state.flags.readList [] rest with
    | (flags, .group, rest) => return (state.openGroup none flags, rest)
    | (flags, .here, rest) =>
      return ({ state with flags, current := state.current.addFlags }, rest)
  | rest => .ok (state.openCapture, rest)

def closeGroup (state : State) : Except PatternError State :=
  match state.around with
  | [] => .error .unopenedGroup
  | outer :: around =>
    .ok { state with
      flags := state.current.outerFlags
      current := outer.add state.current.close
      around }

/-- Reads one item, operator or parenthesis, which begins with `c`. -/
def readOne (state : State) (c : Char) (rest : List Char) :
    Except PatternError (State × List Char) :=
  match c with
  | '(' => readGroup state rest
  | ')' => do return (← closeGroup state, rest)
  | '|' => .ok ({ state with current := state.current.branch }, rest)
  | '[' => do
    let (cls, rest) := openClass state.flags rest
    let (set, depth, rest) ← readClass state.flags cls [] (rest.length + 1) rest
    return (state.add (.ofSet set) depth, rest)
  | '?' => do
    let (greedy, rest) := readLazy rest
    return (← state.repeatLast 0 (some 1) greedy, rest)
  | '*' => do
    let (greedy, rest) := readLazy rest
    return (← state.repeatLast 0 none greedy, rest)
  | '+' => do
    let (greedy, rest) := readLazy rest
    return (← state.repeatLast 1 none greedy, rest)
  | '\x7b' => do
    let (least, most, rest) ← readBounds state.flags rest
    let (greedy, rest) := readLazy rest
    return (← state.repeatLast least most greedy, rest)
  | '\\' => do
    match ← readEscape state.flags rest with
    | (.literal c, rest) => return (state.add (state.literal c) 0, rest)
    | (.set set, rest) => return (state.add (.ofSet set) 0, rest)
    | (.check assertion, rest) => return (state.add (.check assertion) 0, rest)
  | '.' => do return (state.add (← state.dot) 0, rest)
  | '^' => .ok (state.add state.startAnchor 0, rest)
  | '$' => .ok (state.add state.endAnchor 0, rest)
  | c => .ok (state.add (state.literal c) 0, rest)

/-- Reads a pattern to its end.  Each item takes a character at least, so the length of the text
is fuel enough. -/
def readAll : Nat → State → List Char → Except PatternError Item
  | fuel, state, text =>
    match skip state.flags text with
    | [] => if state.around.isEmpty then .ok state.current.body else .error .unclosedGroup
    | c :: rest =>
      match fuel with
      | 0 => .error .tooLarge
      | fuel + 1 =>
        match readOne state c rest with
        | .ok (state, rest) => readAll fuel state rest
        | .error cause => .error cause

def depthLimit : Nat := 250

/-- The expression that a pattern text stands for. -/
def read (text : List Char) : Except PatternError Expr := do
  let item ← readAll text.length .initial text
  if item.depth ≤ depthLimit then return item.expr else throw .tooDeep

end PatternText

end Highlighter
