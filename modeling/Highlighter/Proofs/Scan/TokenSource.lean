import Highlighter.Scan.TokenSource
import Highlighter.Proofs.Scan.Stream

/-!
# What sources yield

Asked for one token after another, a list yields its tokens and takes no steps, and
a stream yields the tokens that are left of its text and takes the steps that are.
-/

set_option autoImplicit false

namespace Highlighter

/-- What a source hands out until it has no token any more, and the steps that are taken for it. -/
inductive Yields {ι : Type} [TokenSource ι] : ι → List Token → List Step → Prop where
  | done {source following : ι} (ended : TokenSource.next source = (none, following)) :
      Yields source [] (TokenSource.nextStep? source).toList
  | more {source following : ι} {token : Token} {tokens : List Token} {steps : List Step}
      (handed : TokenSource.next source = (some token, following))
      (later : Yields following tokens steps) :
      Yields source (token :: tokens) ((TokenSource.nextStep? source).toList ++ steps)

namespace Yields

theorem ofList (tokens : List Token) : Yields tokens tokens [] := by
  induction tokens with
  | nil => exact .done rfl
  | cons token tokens inductionHypothesis => exact .more rfl inductionHypothesis

theorem ofStream (stream : Stream) : Yields stream stream.tokensLeft stream.stepsLeft := by
  -- On the tokens that are left, since the first of them need not take a step.
  induction left : stream.tokensLeft generalizing stream with
  | nil =>
    rcases stream.next_cases with ⟨ended, -, none, idle⟩ | ⟨next, following, -, more, -⟩
    · have nothing : stream.stepsLeft = stream.nextStep?.toList := by
        rw [none, idle]
        rfl
      rw [nothing]
      exact .done ended
    · rw [left] at more
      cases more
  | cons token tokens inductionHypothesis =>
    rcases stream.next_cases with ⟨-, ended, -, -⟩ | ⟨next, following, handed, more, further⟩
    · rw [left] at ended
      cases ended
    · rw [left] at more
      obtain ⟨rfl, rfl⟩ := List.cons.inj more
      rw [further]
      exact .more handed (inductionHypothesis following rfl)

end Yields

end Highlighter
