import Highlighter.Proofs.Pattern.FirstReading
import Highlighter.Proofs.Pattern.Phrases
import Highlighter.Proofs.Scan.Steps

/-!
# Starting again in the middle of a text

Between two steps nothing is remembered but the place that has been reached.
So a text can be cut where a step begins: up to there the tokens stay as they
are, and from there on they are those of the text that is left, moved to its
place.
-/

set_option autoImplicit false

namespace Highlighter.RuleTable

/-- Where the steps through a text begin, and where the last one ends. -/
def cuts (table : RuleTable) (text : List Char) : List Nat :=
  (table.steps text).map (·.offset) ++ [Utf8.size text]

theorem stepsFrom_cut (table : RuleTable) (cut offset : Nat) (text : List Char) :
    cut ∈ (table.stepsFrom offset text).map (·.offset) ++ [offset + Utf8.size text] →
      ∃ earlier before after, text = before ++ after ∧ cut = offset + Utf8.size before ∧
        table.stepsFrom offset text = earlier ++ table.stepsFrom cut after ∧
        Tiles offset before (earlier.flatMap (·.tokens)) := by
  refine table.steps_induction (motive := fun offset text =>
    cut ∈ (table.stepsFrom offset text).map (·.offset) ++ [offset + Utf8.size text] →
      ∃ earlier before after, text = before ++ after ∧ cut = offset + Utf8.size before ∧
        table.stepsFrom offset text = earlier ++ table.stepsFrom cut after ∧
        Tiles offset before (earlier.flatMap (·.tokens))) ?_ ?_ offset text
  · intro offset member
    have same : cut = offset := by
      simpa [stepsFrom_nil] using member
    subst same
    exact ⟨[], [], [], rfl, rfl, rfl, .done cut⟩
  · intro offset c rest later member
    have whole : (c :: rest).take (table.step offset c rest).length
        ++ (c :: rest).drop (table.step offset c rest).length = c :: rest :=
      List.take_append_drop _ _
    have total := Utf8.size_take_add_drop (table.step offset c rest).length (c :: rest)
    by_cases here : cut = offset
    · subst here
      exact ⟨[], [], c :: rest, rfl, rfl, rfl, .done cut⟩
    · -- The cut is not where this step begins, so it lies in what is left after the step.
      have further : cut ∈ (table.stepsFrom
            (offset + Utf8.size ((c :: rest).take (table.step offset c rest).length))
            ((c :: rest).drop (table.step offset c rest).length)).map (·.offset)
          ++ [offset + Utf8.size ((c :: rest).take (table.step offset c rest).length)
            + Utf8.size ((c :: rest).drop (table.step offset c rest).length)] := by
        rw [stepsFrom_cons, List.map_cons, step_offset, List.cons_append, ← total,
          ← Nat.add_assoc] at member
        exact (List.mem_cons.mp member).resolve_left here
      obtain ⟨earlier, before, after, split, place, steps, tiles⟩ := later further
      refine ⟨table.step offset c rest :: earlier,
        (c :: rest).take (table.step offset c rest).length ++ before, after, ?_, ?_, ?_, ?_⟩
      · rw [List.append_assoc, ← split, whole]
      · rw [Utf8.size_append, ← Nat.add_assoc]
        exact place
      · rw [stepsFrom_cons, steps, List.cons_append]
      · exact (table.step_tiles offset c rest).append tiles

/-- Where a step begins, the tokens of the text that is left are those that are still to come. -/
theorem tokens_cut (table : RuleTable) {text : List Char} {cut : Nat}
    (member : cut ∈ table.cuts text) :
    ∃ rest, Utf8.drop? cut text = some rest ∧
      (table.tokens text).filter (cut ≤ ·.start) = (table.tokens rest).map (·.shift cut) ∧
      ∀ token ∈ table.tokens text, token.start < cut → token.stop ≤ cut := by
  have place : cut ∈ (table.stepsFrom 0 text).map (·.offset) ++ [0 + Utf8.size text] := by
    rw [Nat.zero_add]
    exact member
  obtain ⟨earlier, before, after, rfl, rfl, steps, tiles⟩ :=
    table.stepsFrom_cut cut 0 text place
  have later := table.stepsFrom_tiles (0 + Utf8.size before) after
  have tokens : table.tokens (before ++ after)
      = earlier.flatMap (·.tokens)
        ++ (table.stepsFrom (0 + Utf8.size before) after).flatMap (·.tokens) := by
    rw [← List.flatMap_append, ← steps]
    rfl
  rw [tokens]
  refine ⟨after, ?_, ?_, ?_⟩
  · rw [Nat.zero_add]
    exact Utf8.drop?_size_append before after
  · rw [tiles.filter_append later]
    exact table.stepsFrom_tokens _ after
  · exact tiles.stop_le_of_start_lt later

/-- A rule that makes three tokens of a match. -/
def assignmentTable : RuleTable :=
  ⟨[⟨"assignment",
    .atStart (.row 1 (.run (.range 'a' 'z')) [.literal ['='], .run (.range '0' '9')]) 3,
    .groups [some .identifier, some .operator, some .number], none⟩]⟩

theorem tokens_cut_assignment :
    8 ∈ assignmentTable.cuts "ó;ab=1;c=23".toList ∧
      Utf8.drop? 8 "ó;ab=1;c=23".toList = some "c=23".toList ∧
      (assignmentTable.tokens "ó;ab=1;c=23".toList).filter (8 ≤ ·.start)
        = (assignmentTable.tokens "c=23".toList).map (·.shift 8) ∧
      ∀ token ∈ assignmentTable.tokens "ó;ab=1;c=23".toList, token.start < 8 → token.stop ≤ 8 := by
  have member : 8 ∈ assignmentTable.cuts "ó;ab=1;c=23".toList := by decide +kernel
  obtain ⟨rest, left, later, earlier⟩ := assignmentTable.tokens_cut member
  have known : Utf8.drop? 8 "ó;ab=1;c=23".toList = some "c=23".toList := by decide
  have same : rest = "c=23".toList := Option.some.inj (left.symm.trans known)
  subst same
  exact ⟨member, left, later, earlier⟩

end Highlighter.RuleTable
