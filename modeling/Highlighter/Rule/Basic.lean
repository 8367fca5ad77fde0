import Highlighter.Failure
import Highlighter.Pattern.Anchored
import Highlighter.Rule.Labelling

/-!
# Rules

A rule matches a pattern at a place in the source and labels what it matched.
It may be restricted to matches that end where a word ends.
-/

set_option autoImplicit false

namespace Highlighter

structure Rule where
  name : String
  pattern : Pattern
  labelling : Labelling
  /-- The characters that may not follow a match directly, if there is a condition on them. -/
  barred? : Option (Char → Bool)

namespace Rule

/-- The rule of a pattern text.  A labelling by groups lists as many classes as the pattern has
groups. -/
def ofText (name pattern : String) (labelling : Labelling) : Except Failure Rule :=
  match Pattern.ofText pattern with
  | .error cause => .error (.pattern name cause)
  | .ok pattern =>
    match labelling with
    | .whole _ => .ok ⟨name, pattern, labelling, none⟩
    | .groups classes =>
      if classes.length = pattern.groupCount then .ok ⟨name, pattern, labelling, none⟩
      else .error (.groupCount name classes.length pattern.groupCount)

/-- The rule restricted to matches that no character of `barred` follows directly. -/
def notBefore (rule : Rule) (barred : Char → Bool) : Rule :=
  { rule with barred? := some barred }

/-- Whether a match may end where `rest` follows. -/
def mayEndBefore (rule : Rule) (rest : List Char) : Bool :=
  match rule.barred?, rest with
  | some barred, next :: _ => !barred next
  | _, _ => true

/-- A match of a rule: how many characters it covers and the tokens that it makes. -/
structure Found where
  length : Nat
  tokens : List Token
  deriving DecidableEq, Repr

/-- What the rule finds at the start of `text`, which begins at byte `offset` of the source.  A
match that ends where `text` begins counts as none. -/
def match? (rule : Rule) (offset : Nat) (text : List Char) : Option Found :=
  match rule.pattern.find? text with
  | none => none
  | some found =>
    if found.span.stop ≠ 0 ∧ rule.mayEndBefore (text.drop found.span.stop) then
      some ⟨found.span.stop, rule.labelling.tokens offset text found⟩
    else none

/-- The tokens that the rule makes at byte `offset` of `text`; none where it does not match, and
at offsets that are past the text, at its end or inside a character. -/
def tokensAt? (rule : Rule) (text : List Char) (offset : Nat) : Option (List Token) :=
  match Utf8.drop? offset text with
  | none => none
  | some [] => none
  | some rest => (rule.match? offset rest).map (·.tokens)

end Rule

end Highlighter
