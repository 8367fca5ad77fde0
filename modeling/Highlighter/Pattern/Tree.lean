import Highlighter.Pattern.Expr

/-!
# Pattern trees

A tree is a pattern expression whose places are numbered.  A place is a point
at which a character is taken, and each choice and each loop has a number too.
A tree takes the numbers from a base on, in the order of its parts, and knows
how many numbers a part takes, so that a place is found by its number.  A part
that is repeated a given number of times takes as many stretches of numbers.
-/

set_option autoImplicit false

namespace Highlighter

/-- A pattern with numbered places. -/
inductive Tree where
  | empty
  /-- A given text, with a place for each character. -/
  | literal (text : List Char)
  /-- One character of a set, which is one place. -/
  | chars (set : CharSet)
  | check (assertion : Assertion)
  /-- One part after another, where the first takes `width` numbers. -/
  | seq (width : Nat) (first rest : Tree)
  /-- Either of two, the first preferred, where the first takes `width` numbers. -/
  | choice (width : Nat) (first rest : Tree)
  | group (index : Nat) (body : Tree)
  /-- Any number of times the same, but at least once if `once`. -/
  | loop (greedy once : Bool) (body : Tree)
  /-- `count` times the same, where `body` takes `width` numbers. -/
  | copies (count width : Nat) (body : Tree)
  /-- Up to `count` times the same, each time only after the one before. -/
  | upTo (count : Nat) (greedy : Bool) (width : Nat) (body : Tree)
  deriving DecidableEq, Repr

namespace Tree

/-- How many numbers a tree takes. -/
def width : Tree → Nat
  | empty | check _ => 0
  | literal text => text.length
  | chars _ => 1
  | seq width _ rest => width + rest.width
  | choice width _ rest => 1 + width + rest.width
  | group _ body => body.width
  | loop _ _ body => 1 + body.width
  | copies count width _ => count * width
  | upTo count _ width _ => count * (1 + width)

def andThen (first rest : Tree) : Tree :=
  seq first.width first rest

def orElse (first rest : Tree) : Tree :=
  choice first.width first rest

/-- Any number of times the same.  Where one time may take nothing, the loop is either left out or
run at least once. -/
def anyNumber (isConsuming greedy : Bool) (body : Tree) : Tree :=
  if isConsuming then loop greedy false body
  else upTo 1 greedy (1 + body.width) (loop greedy true body)

def repeated (isConsuming greedy : Bool) (least : Nat) (most : Option Nat) (body : Tree) : Tree :=
  match least, most with
  | 0, none => anyNumber isConsuming greedy body
  | 1, none => loop greedy true body
  | least + 2, none => andThen (copies (least + 1) body.width body) (loop greedy true body)
  | 0, some most => upTo most greedy body.width body
  | least, some most =>
    if most ≤ least then copies least body.width body
    else andThen (copies least body.width body) (upTo (most - least) greedy body.width body)

def ofExpr : Expr → Tree
  | .empty => empty
  | .literal text => literal text
  | .chars set => chars set
  | .check assertion => check assertion
  | .seq first rest => andThen (ofExpr first) (ofExpr rest)
  | .either first rest => orElse (ofExpr first) (ofExpr rest)
  | .group index body => group index (ofExpr body)
  | .repeated least most greedy body =>
    repeated body.isConsuming greedy least most (ofExpr body)

end Tree

end Highlighter
