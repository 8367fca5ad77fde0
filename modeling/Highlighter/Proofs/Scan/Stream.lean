import Highlighter.Scan.Stream
import Highlighter.Proofs.Scan.Steps

/-!
# What a stream hands out next

A stream runs ahead of its tokens: once the first token of a step has been handed
out, it stands where the step ends.  Marked with these places, the tokens that are
left tell all that a stream does: it hands out the first of them and then stands
at its mark.
-/

set_option autoImplicit false

namespace Highlighter

/-- The byte at which a step ends. -/
def Step.stop (step : Step) : Nat :=
  step.offset + Utf8.size (step.tokens.flatMap Token.text)

/-- The tokens of a step, each with the end of the step. -/
def Step.marked (step : Step) : List (Token × Nat) :=
  step.tokens.map fun token => (token, step.stop)

namespace RuleTable

theorem step_stop (table : RuleTable) (offset : Nat) (c : Char) (rest : List Char) :
    (table.step offset c rest).stop
      = offset + Utf8.size ((c :: rest).take (table.step offset c rest).length) := by
  unfold Step.stop
  rw [step_offset, (table.step_tiles offset c rest).joined]

end RuleTable

namespace Stream

/-- All tokens that have not been handed out. -/
def tokensLeft (stream : Stream) : List Token :=
  stream.waiting ++ (stream.table.stepsFrom stream.offset stream.rest).flatMap (·.tokens)

/-- The tokens that a stream will hand out, each with the place where the stream then stands. -/
def marked (stream : Stream) : List (Token × Nat) :=
  stream.waiting.map (fun token => (token, stream.offset))
    ++ (stream.table.stepsFrom stream.offset stream.rest).flatMap Step.marked

theorem marked_tokensLeft (stream : Stream) : stream.marked.map Prod.fst = stream.tokensLeft := by
  simp [marked, tokensLeft, Step.marked, List.map_flatMap, Function.comp_def]

/-- A stream hands out the first of its marked tokens and then stands at the mark. -/
theorem next_eq (stream : Stream) :
    (stream.marked = [] ∧ stream.next = (none, stream)) ∨
      ∃ token stop following, stream.marked = (token, stop) :: following.marked ∧
        stream.next = (some token, following) ∧ following.offset = stop := by
  obtain ⟨table, offset, rest, waiting⟩ := stream
  cases waiting with
  | cons token waiting => exact .inr ⟨token, offset, ⟨table, offset, rest, waiting⟩, rfl, rfl, rfl⟩
  | nil =>
    cases rest with
    | nil =>
      refine .inl ⟨?_, rfl⟩
      simp [marked, RuleTable.stepsFrom_nil]
    | cons c rest =>
      -- A step is made now: its first token is handed out, the others wait where it ends.
      obtain ⟨token, waiting, own⟩ :=
        List.exists_cons_of_ne_nil (table.step_tokens_ne_nil offset c rest)
      refine .inr ⟨token, (table.step offset c rest).stop, (next ⟨table, offset, c :: rest, []⟩).2,
        ?_, ?_, ?_⟩
      · simp [marked, next, Step.marked, RuleTable.stepsFrom_cons, RuleTable.step_stop, own,
          RuleTable.drop_step]
      · simp [next, own]
      · simp [next, RuleTable.step_stop]

theorem drain_of_none {stream following : Stream} (ended : stream.next = (none, following)) :
    stream.drain = ([], following) := by
  rw [drain]
  split <;> rename_i other <;> rw [ended] at other <;> cases other
  rfl

theorem drain_of_some {stream following : Stream} {token : Token}
    (handed : stream.next = (some token, following)) :
    stream.drain = (token :: following.drain.1, following.drain.2) := by
  rw [drain]
  split <;> rename_i other <;> rw [handed] at other <;> cases other
  rfl

/-! ## The steps of a stream -/

/-- The steps that a stream has not taken. -/
def stepsLeft (stream : Stream) : List Step :=
  stream.table.stepsFrom stream.offset stream.rest

/-- With the next token a stream takes its next step, if it has to, and no other. -/
theorem next_cases (stream : Stream) :
    (stream.next = (none, stream) ∧ stream.tokensLeft = [] ∧ stream.stepsLeft = [] ∧
      stream.nextStep? = none) ∨
    ∃ token following, stream.next = (some token, following) ∧
      stream.tokensLeft = token :: following.tokensLeft ∧
      stream.stepsLeft = stream.nextStep?.toList ++ following.stepsLeft := by
  obtain ⟨table, offset, rest, waiting⟩ := stream
  cases waiting with
  | cons token waiting => exact .inr ⟨token, ⟨table, offset, rest, waiting⟩, rfl, rfl, rfl⟩
  | nil =>
    cases rest with
    | nil =>
      have nothing := table.stepsFrom_nil offset
      exact .inl ⟨rfl, by simp [tokensLeft, nothing], nothing, rfl⟩
    | cons c rest =>
      obtain ⟨token, waiting, own⟩ :=
        List.exists_cons_of_ne_nil (table.step_tokens_ne_nil offset c rest)
      refine .inr ⟨token, (next ⟨table, offset, c :: rest, []⟩).2, ?_, ?_, ?_⟩
      · simp [next, own]
      · simp [tokensLeft, next, RuleTable.stepsFrom_cons, RuleTable.drop_step, own]
      · simp [stepsLeft, nextStep?, next, RuleTable.stepsFrom_cons, RuleTable.drop_step]

end Stream

end Highlighter
