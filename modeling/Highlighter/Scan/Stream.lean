import Highlighter.Scan.Session
import Highlighter.Scan.Steps

/-!
# Tokens on demand

A stream hands out the tokens of a text one by one and scans no further than it
has to.  A step can make several tokens; those not handed out yet wait.
-/

set_option autoImplicit false

namespace Highlighter

/-- A text that is being divided into tokens. -/
structure Stream where
  table : RuleTable
  /-- The byte up to which the text has been scanned. -/
  offset : Nat
  /-- What has not been scanned. -/
  rest : List Char
  /-- Tokens that have been made and not handed out. -/
  waiting : List Token

namespace Stream

def start (table : RuleTable) (text : List Char) : Stream :=
  ⟨table, 0, text, []⟩

/-- Hands out the next token, if there is one. -/
def next (stream : Stream) : Option Token × Stream :=
  match stream.waiting, stream.rest with
  | token :: waiting, _ => (some token, { stream with waiting })
  | [], [] => (none, stream)
  | [], c :: rest =>
    let step := stream.table.step stream.offset c rest
    (step.tokens.head?,
      { stream with
        offset := stream.offset + Utf8.size ((c :: rest).take step.length)
        rest := rest.drop (step.length - 1)
        waiting := step.tokens.tail })

/-- The step that is taken when the next token is asked for, if no token waits and there is text
left. -/
def nextStep? (stream : Stream) : Option Step :=
  match stream.waiting, stream.rest with
  | [], c :: rest => some (stream.table.step stream.offset c rest)
  | _, _ => none

/-- A token that is handed out has waited, or some of the text has been scanned for it. -/
theorem next_decreases {stream following : Stream} {token : Token}
    (handed : stream.next = (some token, following)) :
    Prod.Lex (· < ·) (· < ·) (following.rest.length, following.waiting.length)
      (stream.rest.length, stream.waiting.length) := by
  obtain ⟨table, offset, rest, waiting⟩ := stream
  cases waiting with
  | cons first waiting =>
    cases handed
    exact .right _ (Nat.lt_succ_self _)
  | nil =>
    cases rest with
    | nil => cases handed
    | cons c rest =>
      obtain rfl := congrArg Prod.snd handed
      refine .left _ _ ?_
      simp only [next, List.length_drop, List.length_cons]
      omega

/-- Leaves out `count` tokens and hands out the one after them. -/
def nth (stream : Stream) : Nat → Option Token × Stream
  | 0 => stream.next
  | count + 1 =>
    match stream.next with
    | (some _, stream) => stream.nth count
    | (none, stream) => (none, stream)

/-- Hands out all tokens that are left. -/
def drain (stream : Stream) : List Token × Stream :=
  match _ : stream.next with
  | (none, stream) => ([], stream)
  | (some token, following) =>
    let (tokens, stream) := following.drain
    (token :: tokens, stream)
termination_by (stream.rest.length, stream.waiting.length)
decreasing_by exact next_decreases ‹_›

/-! ## Requests -/

/-- What can be asked of a stream, or done with it. -/
inductive Request where
  | next
  | nth (count : Nat)
  /-- Only where the stream stands. -/
  | offset
  /-- Keep the stream as it is now. -/
  | save
  /-- Go on with the stream kept last. -/
  | restore
  | rest
  deriving DecidableEq, Repr

inductive Answer where
  | token (token : Option Token)
  | tokens (tokens : List Token)
  /-- How many streams are kept. -/
  | kept (count : Nat)
  | nothing
  deriving DecidableEq, Repr

def serve (session : Session Stream) : Request → Answer × Session Stream
  | .next =>
    let (token, stream) := session.current.next
    (.token token, session.update stream)
  | .nth count =>
    let (token, stream) := session.current.nth count
    (.token token, session.update stream)
  | .offset => (.nothing, session)
  | .save => (.kept session.save.saved.length, session.save)
  | .restore =>
    match session.restore? with
    | none => (.nothing, session)
    | some session => (.kept session.saved.length, session)
  | .rest =>
    let (tokens, stream) := session.current.drain
    (.tokens tokens, session.update stream)

/-- Answers requests one after another, each with the offset of the stream after it. -/
def serveAll (session : Session Stream) : List Request → List (Answer × Nat)
  | [] => []
  | request :: requests =>
    let (answer, session) := serve session request
    (answer, session.current.offset) :: serveAll session requests

end Stream

end Highlighter
