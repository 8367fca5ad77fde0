import Highlighter.Language.Setanta

/-!
# Steps through a text

A table of rules goes through a text in steps.  At each place the rules are
tried in order, and the first that matches decides, even where a later one
would cover more.  Where none matches, one character is passed over as a plain
token.  Thus every text is divided completely.
-/

set_option autoImplicit false

namespace Highlighter

/-- What decided a step. -/
inductive Decision where
  /-- The rule of the given name matched. -/
  | matched (rule : String)
  /-- No rule matched at the given character. -/
  | unmatched (c : Char)
  deriving DecidableEq, Repr

structure Step where
  offset : Nat
  decision : Decision
  /-- How many characters the step covers. -/
  length : Nat
  tokens : List Token
  deriving DecidableEq, Repr

/-- Rules in the order in which they are tried. -/
structure RuleTable where
  rules : List Rule

namespace RuleTable

def setanta : Except Failure RuleTable :=
  Setanta.rules.map RuleTable.mk

/-- The first rule that matches at the start of `text`, which begins at byte `offset`, and what it
finds there. -/
def firstMatch? (table : RuleTable) (offset : Nat) (text : List Char) :
    Option (Rule × Rule.Found) :=
  table.rules.findSome? fun rule => (rule.match? offset text).map fun found => (rule, found)

/-- The step over the text that begins with `c` at byte `offset` and goes on with `rest`. -/
def step (table : RuleTable) (offset : Nat) (c : Char) (rest : List Char) : Step :=
  match table.firstMatch? offset (c :: rest) with
  | some (rule, found) => ⟨offset, .matched rule.name, found.length, found.tokens⟩
  | none => ⟨offset, .unmatched c, 1, [.ofText .plain [c] offset]⟩

/-- The steps through `text`, which begins at byte `offset`. -/
def stepsFrom (table : RuleTable) (offset : Nat) (text : List Char) : List Step :=
  match text with
  | [] => []
  | c :: rest =>
    let step := table.step offset c rest
    step :: table.stepsFrom (offset + Utf8.size ((c :: rest).take step.length))
      (rest.drop (step.length - 1))
termination_by text.length
decreasing_by simp only [List.length_drop, List.length_cons]; omega

def steps (table : RuleTable) (text : List Char) : List Step :=
  table.stepsFrom 0 text

def tokens (table : RuleTable) (text : List Char) : List Token :=
  (table.steps text).flatMap (·.tokens)

end RuleTable

end Highlighter
