import Mathlib.Data.List.Forall2
import Highlighter.Pattern.Matching

/-!
# The readings of a tree

What a tree matches can be told without numbers and threads: from a place in a
text it has a list of readings, the preferred before the others.  A part that
follows another is read on from each reading of that one; a choice has the
readings of its first branch and then those of its second; a greedy repetition
has those that go on before the one that ends.

Which places in the text the readings reach does not depend on what has been
recorded of the way there.
-/

set_option autoImplicit false

namespace Highlighter

/-- A place reached in a text, with what is recorded of the way there. -/
structure Reading where
  before : Option Char
  /-- The text that is left. -/
  rest : List Char
  index : Nat
  path : Path
  deriving DecidableEq, Repr

namespace Reading

def start (text : List Char) : Reading := ⟨none, text, 0, .begin 0⟩

def take (accepts : Char → Bool) (reading : Reading) : List Reading :=
  match reading.rest with
  | [] => []
  | c :: rest => if accepts c then [⟨some c, rest, reading.index + 1, reading.path⟩] else []

def takeText : List Char → Reading → List Reading
  | [], reading => [reading]
  | c :: text, reading => (reading.take (· == c)).flatMap (takeText text)

def enterGroup (reading : Reading) : Reading :=
  { reading with path := reading.path.enterGroup reading.index }

def leaveGroup (group : Nat) (reading : Reading) : Reading :=
  { reading with path := reading.path.leaveGroup group reading.index }

/-- The same a given number of times. -/
def times (step : Reading → List Reading) : Nat → Reading → List Reading
  | 0, reading => [reading]
  | count + 1, reading => (step reading).flatMap (times step count)

/-- The same up to a given number of times. -/
def upTo (greedy : Bool) (step : Reading → List Reading) : Nat → Reading → List Reading
  | 0, reading => [reading]
  | count + 1, reading =>
    let more := (step reading).flatMap (upTo greedy step count)
    if greedy then more ++ [reading] else reading :: more

/-- The same any number of times, where each time takes a character at least. -/
def anyNumber (greedy : Bool) (step : Reading → List Reading) (reading : Reading) :
    List Reading :=
  upTo greedy step reading.rest.length reading

/-- A character more, or none. -/
theorem anyNumber_take (greedy : Bool) (accepts : Char → Bool) (reading : Reading) :
    reading.anyNumber greedy (take accepts)
      = if greedy then
          (reading.take accepts).flatMap (anyNumber greedy (take accepts))
            ++ [reading]
        else
          reading :: (reading.take accepts).flatMap
            (anyNumber greedy (take accepts)) := by
  obtain ⟨before, rest, index, path⟩ := reading
  cases rest with
  | nil => cases greedy <;> rfl
  | cons c rest =>
    by_cases accepted : accepts c
    · simp [anyNumber, upTo, take, accepted]
    · simp [anyNumber, upTo, take, accepted]

def toMatch (reading : Reading) : Match := .ofPath reading.path reading.index

end Reading

namespace Tree

/-- The readings of a tree, the preferred first. -/
def readings : Tree → Reading → List Reading
  | empty, reading => [reading]
  | literal text, reading => reading.takeText text
  | chars set, reading => reading.take set.contains
  | check assertion, reading =>
    if assertion.holds reading.before reading.rest.head? then [reading] else []
  | seq _ first rest, reading => (readings first reading).flatMap (readings rest)
  | choice _ first rest, reading => readings first reading ++ readings rest reading
  | group index body, reading => (readings body reading.enterGroup).map (·.leaveGroup index)
  | loop greedy once body, reading =>
    if once then (readings body reading).flatMap (Reading.anyNumber greedy (readings body))
    else reading.anyNumber greedy (readings body)
  | copies count _ body, reading => reading.times (readings body) count
  | upTo count greedy _ body, reading => reading.upTo greedy (readings body) count

/-- The readings of what is left of a tree once the character at a place of it has been taken. -/
def readingsAfter : Tree → Nat → Nat → Reading → List Reading
  | empty, _, _, _ => []
  | literal text, base, place, reading => reading.takeText (text.drop (place - base + 1))
  | chars _, _, _, reading => [reading]
  | check _, _, _, _ => []
  | seq width first rest, base, place, reading =>
    if place < base + width then
      (readingsAfter first base place reading).flatMap (readings rest)
    else readingsAfter rest (base + width) place reading
  | choice width first rest, base, place, reading =>
    if place < base + 1 + width then readingsAfter first (base + 1) place reading
    else readingsAfter rest (base + 1 + width) place reading
  | group index body, base, place, reading =>
    (readingsAfter body base place reading).map (·.leaveGroup index)
  | loop greedy _ body, base, place, reading =>
    (readingsAfter body (base + 1) place reading).flatMap (Reading.anyNumber greedy (readings body))
  | copies count width body, base, place, reading =>
    let copy := (place - base) / width
    (readingsAfter body (base + copy * width) place reading).flatMap
      (Reading.times (readings body) (count - copy - 1))
  | upTo count greedy width body, base, place, reading =>
    let copy := (place - base) / (1 + width)
    (readingsAfter body (base + copy * (1 + width) + 1) place reading).flatMap
      (Reading.upTo greedy (readings body) (count - copy - 1))

@[simp] theorem readings_andThen (first rest : Tree) (reading : Reading) :
    (first.andThen rest).readings reading
      = (first.readings reading).flatMap rest.readings := rfl

@[simp] theorem readings_orElse (first rest : Tree) (reading : Reading) :
    (first.orElse rest).readings reading
      = first.readings reading ++ rest.readings reading := rfl

end Tree

/-! ## What is recorded does not matter for the way on -/

namespace Reading

/-- Two readings stand at the same place of the text. -/
structure SamePlace (first second : Reading) : Prop where
  before : first.before = second.before
  rest : first.rest = second.rest
  index : first.index = second.index

/-- Two lists of readings stand at the same places one by one. -/
abbrev SamePlaces : List Reading → List Reading → Prop := List.Forall₂ SamePlace

variable {first second : Reading}

theorem SamePlace.leaveGroup (group : Nat) (same : SamePlace first second) :
    SamePlace (first.leaveGroup group) (second.leaveGroup group) :=
  ⟨same.before, same.rest, same.index⟩

theorem samePlaces_flatMap {readings others : List Reading} {step : Reading → List Reading}
    (same : SamePlaces readings others)
    (steps : ∀ first second, SamePlace first second → SamePlaces (step first) (step second)) :
    SamePlaces (readings.flatMap step) (others.flatMap step) :=
  List.rel_flatMap same fun _ _ one => steps _ _ one

theorem samePlaces_take (accepts : Char → Bool) (same : SamePlace first second) :
    SamePlaces (first.take accepts) (second.take accepts) := by
  unfold take
  rw [same.rest]
  split
  · exact .nil
  · split
    · exact .cons ⟨rfl, rfl, congrArg (· + 1) same.index⟩ .nil
    · exact .nil

theorem samePlaces_takeText (text : List Char) : ∀ first second, SamePlace first second →
    SamePlaces (first.takeText text) (second.takeText text) := by
  induction text with
  | nil => exact fun _ _ same => .cons same .nil
  | cons c text inductionHypothesis =>
    intro first second same
    exact samePlaces_flatMap (samePlaces_take _ same) inductionHypothesis

section Steps
variable {step : Reading → List Reading}
  (steps : ∀ first second, SamePlace first second → SamePlaces (step first) (step second))
include steps

theorem samePlaces_times (count : Nat) : ∀ first second, SamePlace first second →
    SamePlaces (first.times step count) (second.times step count) := by
  induction count with
  | zero => exact fun _ _ same => .cons same .nil
  | succ count inductionHypothesis =>
    intro first second same
    exact samePlaces_flatMap (steps first second same) inductionHypothesis

theorem samePlaces_upTo (greedy : Bool) (count : Nat) : ∀ first second, SamePlace first second →
    SamePlaces (first.upTo greedy step count) (second.upTo greedy step count) := by
  induction count with
  | zero => exact fun _ _ same => .cons same .nil
  | succ count inductionHypothesis =>
    intro first second same
    have more := samePlaces_flatMap (steps first second same) inductionHypothesis
    cases greedy with
    | true => exact List.rel_append more (.cons same .nil)
    | false => exact .cons same more

theorem samePlaces_anyNumber (greedy : Bool) (first second : Reading)
    (same : SamePlace first second) :
    SamePlaces (first.anyNumber greedy step) (second.anyNumber greedy step) := by
  unfold anyNumber
  rw [same.rest]
  exact samePlaces_upTo steps greedy _ first second same

end Steps

end Reading

namespace Tree

open Reading (SamePlace SamePlaces)

theorem readings_samePlaces (tree : Tree) : ∀ first second, SamePlace first second →
    SamePlaces (tree.readings first) (tree.readings second) := by
  induction tree with
  | empty => exact fun _ _ same => .cons same .nil
  | literal text => exact Reading.samePlaces_takeText text
  | chars set => exact fun _ _ same => Reading.samePlaces_take _ same
  | check assertion =>
    intro first second same
    unfold readings
    rw [same.before, same.rest]
    split
    · exact .cons same .nil
    · exact .nil
  | seq width first rest firstInduction restInduction =>
    intro one other same
    exact Reading.samePlaces_flatMap (firstInduction one other same) restInduction
  | choice width first rest firstInduction restInduction =>
    intro one other same
    exact List.rel_append (firstInduction one other same) (restInduction one other same)
  | group index body bodyInduction =>
    intro one other same
    refine List.rel_map (fun _ _ place => SamePlace.leaveGroup index place)
      (bodyInduction one.enterGroup other.enterGroup ?_)
    exact ⟨same.before, same.rest, same.index⟩
  | loop greedy once body bodyInduction =>
    intro one other same
    have again := Reading.samePlaces_anyNumber bodyInduction greedy
    unfold readings
    cases once with
    | true => exact Reading.samePlaces_flatMap (bodyInduction one other same) again
    | false => exact again one other same
  | copies count width body bodyInduction =>
    exact Reading.samePlaces_times bodyInduction count
  | upTo count greedy width body bodyInduction =>
    exact Reading.samePlaces_upTo bodyInduction greedy count

theorem readingsAfter_samePlaces (tree : Tree) : ∀ base place first second,
    SamePlace first second →
      SamePlaces (tree.readingsAfter base place first) (tree.readingsAfter base place second) := by
  induction tree with
  | empty => exact fun _ _ _ _ _ => .nil
  | literal text => exact fun _ _ => Reading.samePlaces_takeText _
  | chars set => exact fun _ _ _ _ same => .cons same .nil
  | check assertion => exact fun _ _ _ _ _ => .nil
  | seq width first rest firstInduction restInduction =>
    intro base place one other same
    unfold readingsAfter
    split
    · exact Reading.samePlaces_flatMap (firstInduction base place one other same)
        rest.readings_samePlaces
    · exact restInduction (base + width) place one other same
  | choice width first rest firstInduction restInduction =>
    intro base place one other same
    unfold readingsAfter
    split
    · exact firstInduction (base + 1) place one other same
    · exact restInduction (base + 1 + width) place one other same
  | group index body bodyInduction =>
    intro base place one other same
    exact List.rel_map (fun _ _ place => SamePlace.leaveGroup index place)
      (bodyInduction base place one other same)
  | loop greedy once body bodyInduction =>
    intro base place one other same
    exact Reading.samePlaces_flatMap (bodyInduction (base + 1) place one other same)
      (Reading.samePlaces_anyNumber body.readings_samePlaces greedy)
  | copies count width body bodyInduction =>
    intro base place one other same
    exact Reading.samePlaces_flatMap (bodyInduction _ place one other same)
      (Reading.samePlaces_times body.readings_samePlaces _)
  | upTo count greedy width body bodyInduction =>
    intro base place one other same
    exact Reading.samePlaces_flatMap (bodyInduction _ place one other same)
      (Reading.samePlaces_upTo body.readings_samePlaces greedy _)

/-- Whether anything is left to read does not depend on what is recorded. -/
theorem readingsAfter_eq_nil_iff (tree : Tree) (base place : Nat) {first second : Reading}
    (same : SamePlace first second) :
    tree.readingsAfter base place first = [] ↔ tree.readingsAfter base place second = [] := by
  have count := (tree.readingsAfter_samePlaces base place first second same).length_eq
  rw [← List.length_eq_zero_iff, ← List.length_eq_zero_iff, count]

end Tree

end Highlighter
