import Highlighter.Pattern.Matching
import Highlighter.Token.Basic

/-!
# Labelling a match

A match of a pattern is divided into tokens, either as a whole or along the
capturing groups of the pattern.  The tokens cover the text from where the
search began up to the end of the match, each beginning where the one before it
ends.
-/

set_option autoImplicit false

namespace Highlighter

inductive Labelling where
  | whole (cls : TokenClass)
  /-- A token for each capturing group of the pattern, of the class listed for it or plain if
  none is, and plain tokens between them. -/
  | groups (classes : List (Option TokenClass))
  deriving DecidableEq, Repr

namespace Labelling

/-- The token of the characters of `text` from `start` to `stop`, where `text` begins at byte
`offset` of the source. -/
def stretch (cls : TokenClass) (text : List Char) (offset start stop : Nat) : Token :=
  .ofText cls ((text.take stop).drop start) (offset + Utf8.size (text.take start))

/-- A plain token from `start` to `stop`, if there is anything between them. -/
def gap (text : List Char) (offset start stop : Nat) : List Token :=
  if start < stop then [stretch .plain text offset start stop] else []

/-- The tokens of a match from character `cursor` on.  The groups are taken in the order of their
numbers, beginning with `number`; one that is empty or begins before the cursor has no token, and
what lies before, between and after the others is plain. -/
def groupTokens (text : List Char) (offset : Nat) (found : Match) (number cursor : Nat) :
    List (Option TokenClass) → List Token
  | [] => gap text offset cursor found.span.stop
  | cls :: classes =>
    match found.group? number with
    | none => groupTokens text offset found (number + 1) cursor classes
    | some span =>
      if span.start < span.stop ∧ cursor ≤ span.start then
        gap text offset cursor span.start
          ++ [stretch (cls.getD .plain) text offset span.start span.stop]
          ++ groupTokens text offset found (number + 1) span.stop classes
      else groupTokens text offset found (number + 1) cursor classes

/-- The tokens of a match in `text`, which begins at byte `offset` of the source. -/
def tokens (labelling : Labelling) (offset : Nat) (text : List Char) (found : Match) :
    List Token :=
  match labelling with
  | whole cls => [stretch cls text offset 0 found.span.stop]
  | groups classes => groupTokens text offset found 1 0 classes

end Labelling

end Highlighter
