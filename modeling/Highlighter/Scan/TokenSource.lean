import Highlighter.Scan.Stream

/-!
# Sources of tokens

Tokens are taken one by one from a list that has been made already or from a
stream that makes them on demand.
-/

set_option autoImplicit false

namespace Highlighter

/-- What hands out tokens one by one and has none any more at some time. -/
class TokenSource (ι : Type) extends WellFoundedRelation ι where
  /-- Hands out the next token, if there is one. -/
  next : ι → Option Token × ι
  /-- The step that is taken through a text when the next token is asked for, if there is one. -/
  nextStep? : ι → Option Step := fun _ => none
  next_rel : ∀ {source following : ι} {token : Token},
    next source = (some token, following) → rel following source

instance : TokenSource (List Token) where
  toWellFoundedRelation := measure List.length
  next
    | [] => (none, [])
    | token :: tokens => (some token, tokens)
  next_rel {source following token} handed := by
    cases source with
    | nil => cases handed
    | cons first tokens =>
      cases handed
      exact Nat.lt_succ_self _

instance : TokenSource Stream where
  toWellFoundedRelation :=
    invImage (fun stream => (stream.rest.length, stream.waiting.length))
      (Prod.lex Nat.lt_wfRel Nat.lt_wfRel)
  next := Stream.next
  nextStep? := Stream.nextStep?
  next_rel := Stream.next_decreases

end Highlighter
