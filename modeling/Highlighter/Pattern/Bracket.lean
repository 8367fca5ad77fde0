import Highlighter.Pattern.Escape

/-!
# Bracketed classes in a pattern

A class lists characters, ranges, named sets and further classes between
brackets, and may combine such lists by the operations `&&`, `--` and `~~`,
which group to the left.  A caret at its start takes the complement.  Where
letters match in either case, they do so before any operation and before the
complement.
-/

set_option autoImplicit false

namespace Highlighter

namespace PatternText

/-- The operations that combine the lists of a class. -/
inductive SetOperation where
  | inter
  | diff
  | symmDiff
  deriving DecidableEq, Repr

def SetOperation.apply : SetOperation → CharSet → CharSet → CharSet
  | inter, left, right => CodeRanges.inter left right
  | diff, left, right => CodeRanges.diff left right
  | symmDiff, left, right => CodeRanges.symmDiff left right

/-- A class whose closing bracket has not been read yet. -/
structure OpenClass where
  negated : Bool
  /-- Whether nothing but hyphens has been read; hyphens and a bracket stand for themselves here. -/
  isFresh : Bool
  /-- What has been read before the last operation, and how deep it is nested. -/
  left : Option (SetOperation × CharSet × Nat)
  /-- The sets listed since the last operation, the latest first. -/
  items : List CharSet
  /-- How deep the deepest of them is nested. -/
  depth : Nat

namespace OpenClass

/-- A class of which nothing has been read. -/
def fresh (negated : Bool) : OpenClass :=
  ⟨negated, true, none, [], 0⟩

def add (cls : OpenClass) (set : CharSet) (depth : Nat) : OpenClass :=
  { cls with items := set :: cls.items, depth := max cls.depth depth }

/-- What has been read of a class, its operations carried out. -/
def combined (flags : Flags) (cls : OpenClass) : CharSet :=
  let listed := cls.items.reverse.foldl CodeRanges.union []
  match cls.left with
  | none => listed
  | some (operation, left, _) => operation.apply (folded flags left) (folded flags listed)

/-- How deep is nested what has been read of a class: a list of several sets is one level, and so
is each operation. -/
def combinedDepth (cls : OpenClass) : Nat :=
  let listed := if 2 ≤ cls.items.length then cls.depth + 1 else cls.depth
  match cls.left with
  | none => listed
  | some (_, _, left) => max left listed + 1

def operate (flags : Flags) (cls : OpenClass) (operation : SetOperation) : OpenClass :=
  { cls with
    left := some (operation, cls.combined flags, cls.combinedDepth)
    items := []
    depth := 0 }

def close (flags : Flags) (cls : OpenClass) : Except PatternError CharSet :=
  negatedIf flags cls.negated (folded flags (cls.combined flags))

/-- How deep a class that is complete is nested. -/
def closedDepth (cls : OpenClass) : Nat :=
  cls.combinedDepth + 1

end OpenClass

def openClass (flags : Flags) (text : List Char) : OpenClass × List Char :=
  match skip flags text with
  | '^' :: rest => (.fresh true, rest)
  | rest => (.fresh false, rest)

/-- The name of an ASCII class such as `[:alpha:]` or `[:^digit:]` after its opening bracket,
whether it is negated, and the text after it. -/
def namedClass? (text : List Char) : Option (CharSet × Bool × List Char) :=
  match text with
  | ':' :: rest =>
    let (negated, rest) := match rest with
      | '^' :: rest => (true, rest)
      | rest => (false, rest)
    match rest.dropWhile (· != ':') with
    | ':' :: ']' :: after =>
      (CharSet.ascii? (String.ofList (rest.takeWhile (· != ':')))).map fun set =>
        (set, negated, after)
    | _ => none
  | _ => none

/-- One member of a class: a character, or what a backslash introduces. -/
def readMember (flags : Flags) : List Char → Except PatternError (Escape × List Char)
  | [] => .error .unclosedClass
  | '\\' :: rest => readEscape flags rest
  | c :: rest => .ok (.literal c, rest)

/-- A range of characters, which are those of ASCII unless the flags say otherwise. -/
def rangeSet (flags : Flags) (low high : Char) : Except PatternError CharSet :=
  if !flags.unicode && 0x80 ≤ high.toNat then .error .notAscii
  else if low.toNat ≤ high.toNat then .ok (.range low high)
  else .error .badRange

def memberSet (flags : Flags) : Escape → Except PatternError CharSet
  | .literal c => rangeSet flags c c
  | .set set => .ok set
  | .check _ => .error .badEscape

/-- A member of a class or a range between two characters.  A hyphen before the closing bracket or
before another hyphen makes no range. -/
def readRange (flags : Flags) (text : List Char) : Except PatternError (CharSet × List Char) := do
  let (member, rest) ← readMember flags text
  match skip flags rest with
  | [] => throw .unclosedClass
  | '-' :: more =>
    match skip flags more with
    | [] => throw .unclosedClass
    | ']' :: _ => return (← memberSet flags member, '-' :: more)
    | '-' :: _ => return (← memberSet flags member, '-' :: more)
    | upper =>
      match member, ← readMember flags upper with
      | .literal low, (.literal high, rest) => return (← rangeSet flags low high, rest)
      | _, _ => throw .badRange
  | rest => return (← memberSet flags member, rest)

/-- Reads the rest of a class, and tells also how deep it is nested.  `outer` holds the classes
around it, the innermost first, and `fuel` is no less than the length of the text. -/
def readClass (flags : Flags) (cls : OpenClass) (outer : List OpenClass) :
    Nat → List Char → Except PatternError (CharSet × Nat × List Char)
  | 0, _ => .error .unclosedClass
  | fuel + 1, text =>
    let opened := { cls with isFresh := false }
    match skip flags text with
    | [] => .error .unclosedClass
    | '[' :: rest =>
      match namedClass? rest with
      | some (set, negated, rest) =>
        match negatedIf flags negated (folded flags set) with
        | .ok set => readClass flags (opened.add set 0) outer fuel rest
        | .error cause => .error cause
      | none =>
        let (inner, rest) := openClass flags rest
        readClass flags inner (opened :: outer) fuel rest
    | ']' :: rest =>
      if cls.isFresh && cls.items.isEmpty then
        readClass flags (opened.add (.single ']') 0) outer fuel rest
      else
        match cls.close flags, outer with
        | .ok set, [] => .ok (set, cls.closedDepth, rest)
        | .ok set, around :: outer =>
          readClass flags (around.add set cls.closedDepth) outer fuel rest
        | .error cause, _ => .error cause
    | c :: rest =>
      if cls.isFresh && c == '-' then readClass flags (cls.add (.single '-') 0) outer fuel rest
      else
        match c, rest with
        | '&', '&' :: rest => readClass flags (opened.operate flags .inter) outer fuel rest
        | '-', '-' :: rest => readClass flags (opened.operate flags .diff) outer fuel rest
        | '~', '~' :: rest => readClass flags (opened.operate flags .symmDiff) outer fuel rest
        | _, _ =>
          match readRange flags (c :: rest) with
          | .ok (set, rest) => readClass flags (opened.add set 0) outer fuel rest
          | .error cause => .error cause

end PatternText

end Highlighter
