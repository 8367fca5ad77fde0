import Highlighter.Pattern.CharSet

/-!
# Pattern expressions

What a pattern text says, with its flags worked into the parts they govern:
letters of either case are sets, a dot and the line anchors are settled, and
each repetition is greedy or lazy by itself.

Expressions are put together in a simplest form.  A row has no rows and no
empty text among its parts, and no two literals side by side; branches that
are single characters or sets become one set; what all branches begin with is
put in front of them; and what can only be empty is not repeated for its own
sake.
-/

set_option autoImplicit false

namespace Highlighter

/-- A condition on a place between two characters.  Where `unicode` is false, the characters of
words are those of ASCII. -/
inductive Assertion where
  | textStart
  | textEnd
  | lineStart
  | lineEnd
  /-- The start of a line where a carriage return ends lines too. -/
  | anyLineStart
  /-- The end of a line where a carriage return ends lines too. -/
  | anyLineEnd
  | wordEdge (unicode : Bool)
  | notWordEdge (unicode : Bool)
  | wordStart (unicode : Bool)
  | wordEnd (unicode : Bool)
  /-- No word character before. -/
  | wordStartHalf (unicode : Bool)
  /-- No word character after. -/
  | wordEndHalf (unicode : Bool)
  deriving DecidableEq, Repr

namespace Assertion

/-- Whether a neighbour is a character of a word. -/
def isWord (unicode : Bool) (neighbour : Option Char) : Bool :=
  neighbour.any (CharSet.word unicode).contains

/-- Whether the condition holds between the characters `before` and `after`, where `none` is the
end of the text. -/
def holds (before after : Option Char) : Assertion → Bool
  | textStart => before.isNone
  | textEnd => after.isNone
  | lineStart => before.all (· == '\n')
  | lineEnd => after.all (· == '\n')
  | anyLineStart => before.all fun c => c == '\n' || (c == '\r' && after != some '\n')
  | anyLineEnd => after.all fun c => c == '\r' || (c == '\n' && before != some '\r')
  | wordEdge unicode => isWord unicode before != isWord unicode after
  | notWordEdge unicode => isWord unicode before == isWord unicode after
  | wordStart unicode => !isWord unicode before && isWord unicode after
  | wordEnd unicode => isWord unicode before && !isWord unicode after
  | wordStartHalf unicode => !isWord unicode before
  | wordEndHalf unicode => !isWord unicode after

end Assertion

/-- What a pattern matches. -/
inductive Expr where
  | empty
  | literal (text : List Char)
  | chars (set : CharSet)
  /-- The empty text, where a condition holds. -/
  | check (assertion : Assertion)
  | seq (first rest : Expr)
  | either (first rest : Expr)
  | group (index : Nat) (body : Expr)
  /-- `least` or more in a row, but no more than `most`; many are preferred if `greedy`. -/
  | repeated (least : Nat) (most : Option Nat) (greedy : Bool) (body : Expr)
  deriving DecidableEq, Repr

namespace Expr

/-! ## Measures -/

/-- The least number of characters of a match; none if a part has no match at all. -/
def minimum : Expr → Option Nat
  | empty | check _ => some 0
  | literal text => some text.length
  | chars set => if set.isEmpty then none else some 1
  | seq first rest => do return (← first.minimum) + (← rest.minimum)
  | either first rest => do return min (← first.minimum) (← rest.minimum)
  | group _ body => body.minimum
  | repeated least _ _ body => do return least * (← body.minimum)

/-- The greatest number of characters of a match; none if there is no bound, or if a part has no
match at all. -/
def maximum : Expr → Option Nat
  | empty | check _ => some 0
  | literal text => some text.length
  | chars set => if set.isEmpty then none else some 1
  | seq first rest => do return (← first.maximum) + (← rest.maximum)
  | either first rest => do return max (← first.maximum) (← rest.maximum)
  | group _ body => body.maximum
  | repeated _ most _ body => do return (← most) * (← body.maximum)

/-- Whether every match takes at least one character. -/
def isConsuming (expr : Expr) : Bool :=
  expr.minimum.any (0 < ·)

/-- The highest number of a group; 0 if there is none. -/
def groupCount : Expr → Nat
  | empty | literal _ | chars _ | check _ => 0
  | seq first rest => max first.groupCount rest.groupCount
  | either first rest => max first.groupCount rest.groupCount
  | group index body => max index body.groupCount
  | repeated _ _ _ body => body.groupCount

/-- Whether every match begins where a given condition is checked. -/
def beginsWith (assertion : Assertion) : Expr → Bool
  | check own => own == assertion
  | seq first rest =>
    first.beginsWith assertion || (first.maximum == some 0 && rest.beginsWith assertion)
  | either first rest => first.beginsWith assertion && rest.beginsWith assertion
  | group _ body => body.beginsWith assertion
  | repeated least _ _ body => least != 0 && body.beginsWith assertion
  | empty | literal _ | chars _ => false

/-- Whether every match ends where a given condition is checked. -/
def endsWith (assertion : Assertion) : Expr → Bool
  | check own => own == assertion
  | seq first rest =>
    rest.endsWith assertion || (rest.maximum == some 0 && first.endsWith assertion)
  | either first rest => first.endsWith assertion && rest.endsWith assertion
  | group _ body => body.endsWith assertion
  | repeated least _ _ body => least != 0 && body.endsWith assertion
  | empty | literal _ | chars _ => false

/-! ## Simplest forms -/

def ofSet (set : CharSet) : Expr :=
  match set with
  | [(low, high)] => if low = high then literal [Char.ofNat low] else chars set
  | _ => chars set

/-- The parts of a row, of which an expression that is no row is the only one. -/
def parts : Expr → List Expr
  | empty => []
  | seq first rest => first :: rest.parts
  | part => [part]

def ofParts : List Expr → Expr
  | [] => empty
  | [part] => part
  | part :: rest => seq part (ofParts rest)

/-- Puts a part in front of others; a literal becomes one with the literal after it. -/
def prepend : Expr → List Expr → List Expr
  | literal text, literal more :: rest => literal (text ++ more) :: rest
  | part, rest => part :: rest

def sequence (items : List Expr) : Expr :=
  ofParts ((items.flatMap parts).foldr prepend [])

/-- The branches of a choice, of which an expression that is no choice is the only one. -/
def branches : Expr → List Expr
  | either first rest => first :: rest.branches
  | branch => [branch]

def ofBranches : List Expr → Expr
  | [] => chars []
  | [branch] => branch
  | branch :: rest => either branch (ofBranches rest)

/-- The set whose characters an expression matches, if it matches single characters only. -/
def set? : Expr → Option CharSet
  | literal [c] => some (.single c)
  | chars set => some set
  | _ => none

/-- The choice between several expressions that share nothing at their beginning. -/
def merge (items : List Expr) : Expr :=
  let branches := items.flatMap branches
  match branches with
  | [branch] => branch
  | _ =>
    match branches.mapM set? with
    | some sets => ofSet (sets.foldl CodeRanges.union [])
    | none => ofBranches branches

/-- The parts with which two rows begin alike. -/
def commonParts : List Expr → List Expr → List Expr
  | first :: rest, other :: others =>
    if first = other then first :: commonParts rest others else []
  | _, _ => []

/-- The parts with which all branches begin, if each branch is a row. -/
def commonStart : List Expr → List Expr
  | [] => []
  | first :: rest =>
    if (first :: rest).all (2 ≤ ·.parts.length) then
      rest.foldl (fun common branch => commonParts common branch.parts) first.parts
    else []

/-- The choice between several expressions, the earlier preferred. -/
def choice (items : List Expr) : Expr :=
  let branches := items.flatMap branches
  let common := if 2 ≤ branches.length then commonStart branches else []
  if common.isEmpty then merge branches
  else
    let ends := branches.map fun branch => sequence (branch.parts.drop common.length)
    sequence (common ++ [merge ends])

def repetition (least : Nat) (most : Option Nat) (greedy : Bool) (body : Expr) : Expr :=
  let onlyEmpty := body.maximum == some 0
  let least := if onlyEmpty then min least 1 else least
  let most := if onlyEmpty then some (min (most.getD 1) 1) else most
  if most = some 0 then empty
  else if least = 1 ∧ most = some 1 then body
  else repeated least most greedy body

end Expr

end Highlighter
