import Highlighter.Proofs.Scan.Coverage
import Highlighter.Proofs.Scan.Stream

/-!
# A stream is a cursor in the list of all tokens

What a stream hands out can be told from the steps through the whole text and
the number of tokens that have been taken, and so can the place where it stands,
which is the end of the step that made the last of them.  A stream and a cursor
that have taken the same tokens answer alike and have again taken the same tokens
afterwards, whatever is asked, kept for later or gone back to.
-/

set_option autoImplicit false

namespace Highlighter

/-- A place in the list of the tokens that some steps have made. -/
structure Cursor where
  steps : List Step
  /-- How many tokens have been taken. -/
  index : Nat

namespace Cursor

def start (table : RuleTable) (text : List Char) : Cursor :=
  ⟨table.steps text, 0⟩

def tokens (cursor : Cursor) : List Token :=
  cursor.steps.flatMap (·.tokens)

/-- For each token the end of the step that made it. -/
def stops (cursor : Cursor) : List Nat :=
  cursor.steps.flatMap fun step => step.tokens.map fun _ => step.stop

/-- The end of the step that made the last token taken; 0 if none has been taken. -/
def offset (cursor : Cursor) : Nat :=
  (cursor.stops.take cursor.index).getLast?.getD 0

/-- The token `count` places further on, and the cursor behind it. -/
def nth (cursor : Cursor) (count : Nat) : Option Token × Cursor :=
  (cursor.tokens[cursor.index + count]?,
    { cursor with index := min (cursor.index + count + 1) cursor.tokens.length })

def next (cursor : Cursor) : Option Token × Cursor :=
  cursor.nth 0

def drain (cursor : Cursor) : List Token × Cursor :=
  (cursor.tokens.drop cursor.index, { cursor with index := cursor.tokens.length })

/-- Answers a request to a stream; keeping a cursor and going back to it copy its index. -/
def serve (session : Session Cursor) : Stream.Request → Stream.Answer × Session Cursor
  | .next => (.token session.current.next.1, session.update session.current.next.2)
  | .nth count =>
    (.token (session.current.nth count).1, session.update (session.current.nth count).2)
  | .offset => (.nothing, session)
  | .save => (.kept (session.saved.length + 1), session.save)
  | .restore =>
    match session.saved with
    | [] => (.nothing, session)
    | cursor :: saved => (.kept saved.length, ⟨cursor, saved⟩)
  | .rest => (.tokens session.current.drain.1, session.update session.current.drain.2)

def serveAll (session : Session Cursor) : List Stream.Request → List (Stream.Answer × Nat)
  | [] => []
  | request :: requests =>
    let (answer, session) := serve session request
    (answer, session.current.offset) :: serveAll session requests

end Cursor

/-! ## Streams and cursors -/

def Cursor.marked (cursor : Cursor) : List (Token × Nat) :=
  cursor.steps.flatMap Step.marked

theorem Cursor.marked_tokens (cursor : Cursor) : cursor.marked.map Prod.fst = cursor.tokens := by
  simp [marked, tokens, Step.marked, List.map_flatMap, Function.comp_def]

theorem Cursor.marked_stops (cursor : Cursor) : cursor.marked.map Prod.snd = cursor.stops := by
  simp [marked, stops, Step.marked, List.map_flatMap, Function.comp_def]

namespace Stream

/-- A stream and a cursor have taken the same tokens of a text. -/
def StandsAt (stream : Stream) (cursor : Cursor) : Prop :=
  ∃ taken, cursor.marked = taken ++ stream.marked ∧ cursor.index = taken.length ∧
    stream.offset = (taken.getLast?.map Prod.snd).getD 0

namespace StandsAt

variable {stream following : Stream} {cursor : Cursor} {token : Token} {stop : Nat}

theorem start (table : RuleTable) (text : List Char) :
    (Stream.start table text).StandsAt (Cursor.start table text) :=
  ⟨[], rfl, rfl, rfl⟩

theorem offset (stands : stream.StandsAt cursor) : stream.offset = cursor.offset := by
  obtain ⟨taken, whole, index, offset⟩ := stands
  have stops : cursor.stops.take cursor.index = taken.map Prod.snd := by
    rw [← cursor.marked_stops, whole, index, List.map_append]
    exact List.take_left' (List.length_map Prod.snd)
  unfold Cursor.offset
  rw [offset, stops, List.getLast?_map]

theorem tokens (stands : stream.StandsAt cursor) :
    cursor.tokens.drop cursor.index = stream.marked.map Prod.fst := by
  obtain ⟨taken, whole, index, -⟩ := stands
  rw [← cursor.marked_tokens, whole, index, List.map_append]
  exact List.drop_left' (List.length_map Prod.fst)

theorem length (stands : stream.StandsAt cursor) :
    cursor.tokens.length = cursor.index + stream.marked.length := by
  obtain ⟨taken, whole, index, -⟩ := stands
  rw [← cursor.marked_tokens, whole, index]
  simp

/-- A cursor at the end of its list stays there. -/
theorem nth_nil (stands : stream.StandsAt cursor) (none : stream.marked = []) (count : Nat) :
    cursor.nth count = (.none, cursor) := by
  have length := stands.length
  rw [none, List.length_nil] at length
  have beyond : cursor.tokens[cursor.index + count]? = .none := by
    rw [List.getElem?_eq_none_iff]
    omega
  have stays : min (cursor.index + count + 1) cursor.tokens.length = cursor.index := by
    omega
  unfold Cursor.nth
  rw [beyond, stays]

theorem nth_zero (stands : stream.StandsAt cursor)
    (more : stream.marked = (token, stop) :: following.marked) :
    cursor.nth 0 = (some token, { cursor with index := cursor.index + 1 }) := by
  have length := stands.length
  have tokens := stands.tokens
  rw [more] at length tokens
  have first : cursor.tokens[cursor.index + 0]? = some token := by
    rw [← List.getElem?_drop, tokens]
    rfl
  have further : min (cursor.index + 0 + 1) cursor.tokens.length = cursor.index + 1 := by
    rw [length, List.length_cons]
    omega
  unfold Cursor.nth
  rw [first, further]

theorem advance (stands : stream.StandsAt cursor)
    (more : stream.marked = (token, stop) :: following.marked) (offset : following.offset = stop) :
    following.StandsAt { cursor with index := cursor.index + 1 } := by
  obtain ⟨taken, whole, index, -⟩ := stands
  refine ⟨taken ++ [(token, stop)], ?_, ?_, ?_⟩
  · rw [List.append_assoc, List.singleton_append, ← more]
    exact whole
  · simp [index]
  · simp [offset]

theorem nth (stands : stream.StandsAt cursor) (count : Nat) :
    (stream.nth count).1 = (cursor.nth count).1 ∧
      (stream.nth count).2.StandsAt (cursor.nth count).2 := by
  induction count generalizing stream cursor with
  | zero =>
    unfold Stream.nth
    rcases stream.next_eq with ⟨none, next⟩ | ⟨token, stop, following, more, next, offset⟩
    · rw [stands.nth_nil none, next]
      exact ⟨rfl, stands⟩
    · rw [stands.nth_zero more, next]
      exact ⟨rfl, stands.advance more offset⟩
  | succ count inductionHypothesis =>
    unfold Stream.nth
    rcases stream.next_eq with ⟨none, next⟩ | ⟨token, stop, following, more, next, offset⟩
    · rw [stands.nth_nil none, next]
      exact ⟨rfl, stands⟩
    · have later := inductionHypothesis (stands.advance more offset)
      have same : cursor.nth (count + 1)
          = Cursor.nth { cursor with index := cursor.index + 1 } count := by
        have place : cursor.index + (count + 1) = cursor.index + 1 + count := by omega
        unfold Cursor.nth
        dsimp only [Cursor.tokens]
        rw [place]
      rw [same, next]
      exact later

theorem next (stands : stream.StandsAt cursor) :
    stream.next.1 = cursor.next.1 ∧ stream.next.2.StandsAt cursor.next.2 :=
  stands.nth 0

/-- Taking one token after another leads to the end of the list. -/
theorem drain (stands : stream.StandsAt cursor) :
    stream.drain.1 = cursor.drain.1 ∧ stream.drain.2.StandsAt cursor.drain.2 := by
  induction left : stream.marked generalizing stream cursor with
  | nil =>
    rcases stream.next_eq with ⟨-, ended⟩ | ⟨token, stop, following, more, -, -⟩
    · have tokens := stands.tokens
      have length := stands.length
      rw [left] at tokens length
      have stays : cursor.drain.2 = cursor := by
        rw [Cursor.drain, length]
        rfl
      rw [Stream.drain_of_none ended, stays]
      exact ⟨tokens.symm, stands⟩
    · rw [left] at more
      cases more
  | cons mark later inductionHypothesis =>
    rcases stream.next_eq with ⟨none, -⟩ | ⟨token, stop, following, more, handed, offset⟩
    · rw [left] at none
      cases none
    · have tokens := stands.tokens
      rw [more] at tokens
      rw [left] at more
      obtain ⟨rfl, rfl⟩ := List.cons.inj more
      obtain ⟨same, ends⟩ := inductionHypothesis (stands.advance left offset) rfl
      have rest : cursor.tokens.drop (cursor.index + 1) = following.marked.map Prod.fst := by
        rw [← List.drop_drop, tokens]
        rfl
      rw [Stream.drain_of_some handed, same]
      refine ⟨?_, ends⟩
      exact (congrArg (token :: ·) rest).trans tokens.symm

end StandsAt

/-! ## Whole scripts -/

/-- Streams and cursors, the current ones and those kept, have taken the same tokens. -/
structure Agree (session : Session Stream) (cursors : Session Cursor) : Prop where
  current : session.current.StandsAt cursors.current
  saved : List.Forall₂ StandsAt session.saved cursors.saved

theorem Agree.serve {session : Session Stream} {cursors : Session Cursor}
    (agree : Agree session cursors) (request : Request) :
    (serve session request).1 = (Cursor.serve cursors request).1 ∧
      Agree (serve session request).2 (Cursor.serve cursors request).2 := by
  obtain ⟨current, saved⟩ := agree
  cases request with
  | next =>
    obtain ⟨same, stands⟩ := current.next
    exact ⟨congrArg Answer.token same, stands, saved⟩
  | nth count =>
    obtain ⟨same, stands⟩ := current.nth count
    exact ⟨congrArg Answer.token same, stands, saved⟩
  | offset => exact ⟨rfl, current, saved⟩
  | save =>
    refine ⟨?_, current, .cons current saved⟩
    have count := saved.length_eq
    simp [Stream.serve, Cursor.serve, Session.save, count]
  | restore =>
    obtain ⟨stream, streams⟩ := session
    obtain ⟨cursor, others⟩ := cursors
    cases saved with
    | nil => exact ⟨rfl, current, .nil⟩
    | cons first rest =>
      refine ⟨?_, first, rest⟩
      have count := rest.length_eq
      simp [Stream.serve, Cursor.serve, Session.restore?, count]
  | rest =>
    obtain ⟨same, stands⟩ := current.drain
    exact ⟨congrArg Answer.tokens same, stands, saved⟩

theorem Agree.serveAll (requests : List Request) : ∀ {session : Session Stream}
    {cursors : Session Cursor}, Agree session cursors →
      serveAll session requests = Cursor.serveAll cursors requests := by
  induction requests with
  | nil => exact fun _ => rfl
  | cons request requests inductionHypothesis =>
    intro session cursors agree
    obtain ⟨answer, later⟩ := agree.serve request
    unfold Stream.serveAll Cursor.serveAll
    dsimp only
    rw [answer, later.current.offset, inductionHypothesis later]

end Stream

/-! ## Bounds on the offset -/

/-- The mark of a token lies behind it and in the text. -/
theorem RuleTable.marked_bounds (table : RuleTable) (text : List Char) :
    ∀ mark ∈ (Cursor.start table text).marked,
      mark.1.stop ≤ mark.2 ∧ mark.2 ≤ Utf8.size text := by
  intro mark member
  obtain ⟨step, among, own⟩ := List.mem_flatMap.mp member
  obtain ⟨token, made, rfl⟩ := List.mem_map.mp own
  obtain ⟨before, c, rest, rfl, rfl⟩ := RuleTable.mem_steps among
  have inside := ((table.step_tiles (Utf8.size before) c rest).bounds token made).2
  have whole := Utf8.size_take_add_drop (table.step (Utf8.size before) c rest).length (c :: rest)
  rw [RuleTable.step_stop, Utf8.size_append]
  dsimp only
  omega

theorem Cursor.offset_succ {steps : List Step} {taken stop : Nat} {token : Token}
    (marked : (Cursor.marked ⟨steps, 0⟩)[taken]? = some (token, stop)) :
    Cursor.offset ⟨steps, taken + 1⟩ = stop := by
  have last : (Cursor.stops ⟨steps, taken + 1⟩)[taken]? = some stop := by
    have mapped := congrArg (Option.map Prod.snd) marked
    rwa [← List.getElem?_map, Cursor.marked_stops] at mapped
  unfold Cursor.offset
  rw [List.take_add_one, last]
  simp

/-- Whatever is asked of a stream, in any order, it answers as a cursor in the list of all tokens
does.  Once it has no token left it never has one again, and after a token has been taken it stands
no earlier than the token ends and within the text. -/
theorem Stream.serveAll_cursor (table : RuleTable) (text : List Char) :
    (∀ requests, Stream.serveAll ⟨.start table text, []⟩ requests
        = Cursor.serveAll ⟨.start table text, []⟩ requests) ∧
      (∀ stream : Stream, stream.next.1 = none → HandsOut Stream.next stream []) ∧
      ∀ taken token, (table.tokens text)[taken]? = some token →
        token.stop ≤ Cursor.offset ⟨table.steps text, taken + 1⟩ ∧
          Cursor.offset ⟨table.steps text, taken + 1⟩ ≤ Utf8.size text := by
  refine ⟨?_, ?_, ?_⟩
  · intro requests
    exact Agree.serveAll requests ⟨StandsAt.start table text, .nil⟩
  · intro stream exhausted
    rcases stream.next_eq with ⟨-, next⟩ | ⟨token, stop, following, -, next, -⟩
    · exact .done next
    · rw [next] at exhausted
      cases exhausted
  · intro taken token found
    have tokens : (Cursor.start table text).marked.map Prod.fst = table.tokens text :=
      Cursor.marked_tokens _
    rw [← tokens, List.getElem?_map] at found
    obtain ⟨⟨own, stop⟩, marked, rfl⟩ := Option.map_eq_some_iff.mp found
    rw [Cursor.offset_succ marked]
    exact table.marked_bounds text _ (List.mem_of_getElem? marked)

end Highlighter
