import Std.Data.TreeMap
import Highlighter.Pattern.Expr
import Highlighter.Text.ByteRanges
import Highlighter.Text.Utf8

/-!
# The size of a pattern

A pattern may not be too large: the automata over bytes that read its matches
forwards and backwards must fit into a fixed number of bytes each.  Such an
automaton has a state for each byte of a literal, for each condition and for
each end of a group, and a few states for each choice and each repetition,
whose copies are written out.  A set of characters is an automaton over the
bytes of their UTF-8 forms, in which states that lead the same way are shared
as long as they are remembered.
-/

set_option autoImplicit false

namespace Highlighter

structure Footprint where
  /-- The number of its states, which is also the number of the next state. -/
  states : Nat
  /-- The bytes that the links of its states take. -/
  links : Nat
  deriving DecidableEq, Repr

namespace Footprint

def bytes (footprint : Footprint) : Nat :=
  32 * footprint.states + footprint.links

def limit : Nat := 10485760

/-- A part of an automaton that is added to what there is; none if that makes it too large. -/
abbrev Part := Footprint → Option Footprint

def grow (states links : Nat) : Part := fun footprint =>
  let grown : Footprint := ⟨footprint.states + states, footprint.links + links⟩
  if grown.bytes ≤ limit then some grown else none

def both (first second : Part) : Part := fun footprint =>
  (first footprint).bind second

def times (part : Part) : Nat → Part
  | 0, footprint => some footprint
  | count + 1, footprint => (part footprint).bind (times part count)

/-! ## Sets of characters -/

/-- States that are remembered by what they lead to.  Each key has one of a fixed number of slots,
and a later key takes the slot of an earlier one. -/
abbrev Memory := Std.TreeMap Nat (List Nat × Nat)

/-- The slot of a key: its numbers are multiplied and mixed into one. -/
def slot (slots : Nat) (key : List Nat) : Nat :=
  (key.foldl (fun (mixed : UInt64) number => (mixed ^^^ number.toUInt64) * 0x100000001B3)
    0xCBF29CE484222325).toNat % slots

/-- The making of the states of a set. -/
abbrev Making := StateT (Memory × Footprint) Option

/-- The state for a key: one that is remembered, or a new one with given bytes of links. -/
def state (slots : Nat) (key : List Nat) (links : Nat) : Making Nat := fun (memory, footprint) =>
  let fresh := do
    let grown ← grow 1 links footprint
    return (footprint.states, (memory.insert (slot slots key) (key, footprint.states), grown))
  match memory.get? (slot slots key) with
  | some (known, number) => if known = key then some (number, (memory, footprint)) else fresh
  | none => fresh

/-- The state from which rows of at most `depth` bytes lead to `target`.  Rows that begin alike
stand together and go on from one state. -/
def rowsState (target : Nat) : Nat → List ByteRanges.Row → Making Nat
  | 0, _ => pure target
  | depth + 1, rows => do
    let links ← (rows.splitBy fun row next => row.head? == next.head?).mapM fun group => do
      let rest := group.map List.tail
      let next ← if rest.all List.isEmpty then pure target else rowsState target depth rest
      let range := (group.headD []).headD (0, 0)
      return [range.1, range.2, next]
    state 10000 links.flatten (8 * links.length)

/-- The state from which the bytes of a row are read from the last to the first, and then `target`
is reached. -/
def backwardState (target : Nat) (row : ByteRanges.Row) : Making Nat :=
  row.foldlM (fun next range => state 1000 [next, range.1, range.2] 0) target

def rows (set : CharSet) : List ByteRanges.Row :=
  set.flatMap fun range => ByteRanges.ofRange range.1 range.2

def forwardSet (set : CharSet) : Part := fun footprint => do
  let grown ← grow 1 0 footprint
  let (_, _, footprint) ← rowsState footprint.states 4 (rows set) (∅, grown)
  return footprint

def backwardSet (set : CharSet) : Part := fun footprint => do
  let rows := rows set
  let grown ← grow 2 (4 * rows.length) footprint
  let target := footprint.states + 1
  let (_, _, footprint) ← (rows.forM fun row => discard (backwardState target row)) (∅, grown)
  return footprint

/-- A direction in which a text is read. -/
inductive Direction where
  | forward
  | backward
  deriving DecidableEq

/-- One character of a set.  ASCII characters are read by one state. -/
def ofSet (direction : Direction) (set : CharSet) : Part :=
  if set.isAscii then grow 2 (8 * set.length)
  else
    match direction with
    | .forward => forwardSet set
    | .backward => backwardSet set

/-! ## Choices between literals -/

/-- The words between the empty words of a list. -/
def segments : List (List UInt8) → List (List (List UInt8))
  | [] => [[]]
  | [] :: rest => [] :: segments rest
  | word :: rest =>
    match segments rest with
    | [] => [[word]]
    | segment :: more => (word :: segment) :: more

/-- The tree of words that begin alike where one may follow the other: of the words before and
after an empty word, each part has branches of its own. -/
def wordTree : Nat → List (List UInt8) → Part
  | 0, _ => some
  | fuel + 1, words =>
    if words.all List.isEmpty then some
    else
      let words :=
        if (words.headD []).isEmpty then [] :: words.dropWhile List.isEmpty else words
      let parts := segments words
      let full := parts.filter (!·.isEmpty)
      let own := full.foldr
        (fun part rest =>
          let starts := (part.filterMap List.head?).eraseDups
          let below := starts.foldr
            (fun start rest =>
              both (wordTree fuel ((part.filter (·.head? == some start)).map List.tail)) rest)
            some
          both below (both (grow 1 (if starts.length = 1 then 0 else 8 * starts.length)) rest))
        some
      both own (grow 1 (4 * (parts.length - 1 + full.length)))

def literals? (expr : Expr) : Option (List (List UInt8)) :=
  expr.branches.mapM fun
    | .literal text => some (Utf8.encode text)
    | _ => none

def ofLiterals (direction : Direction) (words : List (List UInt8)) : Part :=
  let words := if direction = .forward then words else words.map List.reverse
  both (grow 1 0) (wordTree ((words.map List.length).foldl max 0 + 1) words)

/-! ## Expressions -/

/-- Where an expression stands among the branches of a choice. -/
inductive Standing where
  /-- It is no branch. -/
  | alone
  /-- It is or begins with the second branch. -/
  | second
  /-- It is or begins with a later branch. -/
  | later
  deriving DecidableEq

/-- What a choice adds after a branch: the link to it, and after the second branch the two states
of the choice. -/
def afterBranch : Standing → Part
  | .second => grow 2 4
  | _ => grow 0 4

/-- What a choice adds after an expression that is a branch or none. -/
def afterExpr : Standing → Part
  | .alone => some
  | standing => afterBranch standing

def ofRepetition (body : Part) (isConsuming : Bool) (least : Nat) : Option Nat → Part
  | some most =>
    if least = 0 ∧ most = 1 then both (grow 1 8) (both body (grow 1 0))
    else if most ≤ least then if least = 0 then grow 1 0 else times body least
    else
      both (if least = 0 then grow 1 0 else times body least)
        (both (grow 1 0) (times (both (grow 1 8) body) (most - least)))
  | none =>
    if least = 0 then
      if isConsuming then both (grow 1 8) body else both body (grow 3 16)
    else both (times body least) (grow 1 8)

def ofExpr (direction : Direction) : Expr → Standing → Part
  | .empty, standing => both (grow 1 0) (afterExpr standing)
  | .literal text, standing => both (grow (Utf8.size text) 0) (afterExpr standing)
  | .chars set, standing => both (ofSet direction set) (afterExpr standing)
  | .check _, standing => both (grow 1 0) (afterExpr standing)
  | .seq first rest, standing =>
    let first := ofExpr direction first .alone
    let rest := ofExpr direction rest .alone
    both (if direction = .forward then both first rest else both rest first) (afterExpr standing)
  | .either first rest, standing =>
    let branch := both (ofExpr direction first .alone) (afterBranch standing)
    match standing with
    | .alone =>
      match literals? (.either first rest) with
      | some words => ofLiterals direction words
      | none => both branch (ofExpr direction rest .second)
    | _ => both branch (ofExpr direction rest .later)
  | .group _ body, standing =>
    let body := ofExpr direction body .alone
    both (if direction = .forward then both (grow 1 0) (both body (grow 1 0)) else body)
      (afterExpr standing)
  | .repeated least most _ body, standing =>
    both (ofRepetition (ofExpr direction body .alone) body.isConsuming least most)
      (afterExpr standing)

/-- What comes before an expression: a state if its matches begin or end at an end of the text, and
otherwise a loop over what may stand there. -/
def before (isFixed : Bool) : Part :=
  if isFixed then grow 1 0 else grow 3 16

/-- The automaton that reads the matches of an expression forwards. -/
def forwards (expr : Expr) : Part :=
  both (before (expr.beginsWith .textStart))
    (both (grow 1 0) (both (ofExpr .forward expr .alone) (grow 2 0)))

/-- The automaton that reads the matches of an expression backwards. -/
def backwards (expr : Expr) : Part :=
  both (before (expr.endsWith .textEnd)) (both (ofExpr .backward expr .alone) (grow 1 0))

/-- Whether both automata of an expression are small enough. -/
def fits (expr : Expr) : Bool :=
  (forwards expr ⟨0, 0⟩).isSome && (backwards expr ⟨0, 0⟩).isSome

end Footprint

end Highlighter
