import Highlighter.CommandLine.Run
import Highlighter.Proofs.Output.Writing

/-!
# What is written to a console

To the buffer of a console a program does what it would do to a buffer that stands
alone.  The log has the steps that the program has reported before it ended, and
these are all of its steps if no write has failed.
-/

set_option autoImplicit false

namespace Highlighter.CommandLine.Console

/-- A console to which pieces were to be written and steps to be reported, and the failure of the
write that was the last. -/
structure Ends (console : Console) (pieces : List Piece) (steps : List Step)
    (ended : Console × Option FileError) : Prop where
  written : (ended.1.buffer, ended.2) = Output.putAll console.buffer pieces
  taken : ended.1.steps.toList <+: console.steps.toList ++ steps
  complete : ended.2 = none → ended.1.steps.toList = console.steps.toList ++ steps

theorem put_eq (console : Console) (piece : Piece) :
    Output.put console piece
      = ({ console with buffer := (Output.put console.buffer piece).1 },
          (Output.put console.buffer piece).2) := by
  cases piece <;> rfl

theorem doAll_ends (console : Console) (acts : List Act) :
    Ends console (acts.filterMap Act.piece?) (acts.filterMap Act.step?)
      (Act.doAll console acts) := by
  induction acts generalizing console with
  | nil => exact ⟨rfl, by simp [Act.doAll], fun _ => by simp [Act.doAll]⟩
  | cons act acts inductionHypothesis =>
    cases act with
    | report step =>
      obtain ⟨written, taken, complete⟩ := inductionHypothesis (Output.report console step)
      have steps : (Output.report console step).steps.toList ++ acts.filterMap Act.step?
          = console.steps.toList ++ step :: acts.filterMap Act.step? := by
        simp [Output.report]
      rw [steps] at taken complete
      exact ⟨written, taken, complete⟩
    | put piece =>
      have pieces : (Act.put piece :: acts).filterMap Act.piece?
          = piece :: acts.filterMap Act.piece? := rfl
      rw [Act.doAll, put_eq, pieces]
      rcases result : Output.put console.buffer piece with ⟨buffer, failure⟩
      cases failure with
      | none =>
        obtain ⟨written, taken, complete⟩ := inductionHypothesis { console with buffer }
        refine ⟨?_, taken, complete⟩
        rw [Output.putAll, result]
        exact written
      | some cause =>
        refine ⟨?_, List.prefix_append _ _, fun taken => absurd taken (Option.some_ne_none cause)⟩
        rw [Output.putAll, result]

/-- A program ends on a console as it does on the buffer of that console. -/
theorem run_ends {α : Type} {program : Writing Console α}
    {pieces : List Piece} {steps : List Step} {value : α}
    (writes : Writes program pieces steps value) (console : Console) :
    ∃ ended, program.run console = Writing.ended value ended ∧
      Ends console pieces steps ended := by
  obtain ⟨acts, rfl, rfl, runs⟩ := writes
  exact ⟨_, runs console, doAll_ends console acts⟩

end Highlighter.CommandLine.Console
