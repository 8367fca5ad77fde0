import Highlighter.Proofs.Rule.Row

/-!
# Texts cut short

Phrases that are told by their own characters, and not by what stands behind them,
are taken from a text that is cut short as long as they fit into it, and in the same
order.  So a rule whose pattern takes such phrases finds the same again in what it
has found.
-/

set_option autoImplicit false

namespace Highlighter

namespace Phrases

/-- A text that is cut short has the phrases of the whole text that fit into it. -/
def IsLocal (phrases : Phrases) : Prop :=
  ∀ (text : List Char) (count : Nat),
    phrases (text.take count) = (phrases text).filter fun phrase => decide (phrase.length ≤ count)

namespace IsLocal

variable {first rest : Phrases}

theorem words (spelled : List (List Char)) : (Phrases.words spelled).IsLocal := by
  intro text count
  unfold Phrases.words
  rw [List.filter_filter]
  refine List.filter_congr fun word _ => ?_
  rw [Bool.eq_iff_iff, Bool.and_eq_true, decide_eq_true_eq, List.isPrefixOf_iff_prefix,
    List.isPrefixOf_iff_prefix, List.prefix_take_iff, and_comm]

theorem one (accepts : Char → Bool) : (Phrases.one accepts).IsLocal := by
  intro text count
  cases text with
  | nil => simp [Phrases.one]
  | cons c text =>
    cases count with
    | zero => by_cases accepted : accepts c <;> simp [Phrases.one, accepted]
    | succ count => by_cases accepted : accepts c <;> simp [Phrases.one, accepted]

theorem run (accepts : Char → Bool) : (Phrases.run accepts).IsLocal := by
  intro text
  induction text with
  | nil => simp [Phrases.run]
  | cons c text inductionHypothesis =>
    intro count
    by_cases accepted : accepts c
    · cases count with
      | zero => simp [Phrases.run, accepted, List.filter_map]
      | succ count =>
        simp [Phrases.run, accepted, inductionHypothesis, List.filter_map, Function.comp_def]
    · cases count with
      | zero => simp [Phrases.run, accepted]
      | succ count => simp [Phrases.run, accepted]

theorem orElse (firstLocal : first.IsLocal) (restLocal : rest.IsLocal) :
    (first.orElse rest).IsLocal := by
  intro text count
  unfold Phrases.orElse
  rw [firstLocal, restLocal, List.filter_append]

theorem optional (firstLocal : first.IsLocal) : first.optional.IsLocal := by
  intro text count
  unfold Phrases.optional
  rw [firstLocal, List.filter_append]
  simp

theorem andThen (firstLocal : first.IsLocal) (restLocal : rest.IsLocal) :
    (first.andThen rest).IsLocal := by
  intro text count
  unfold Phrases.andThen
  rw [firstLocal, List.filter_flatMap]
  generalize first text = fronts
  induction fronts with
  | nil => rfl
  | cons front fronts inductionHypothesis =>
    rw [List.flatMap_cons, ← inductionHypothesis, List.filter_cons]
    by_cases fits : front.length ≤ count
    · have back : (rest ((text.take count).drop front.length)).map (front ++ ·)
          = ((rest (text.drop front.length)).map (front ++ ·)).filter
              fun phrase => decide (phrase.length ≤ count) := by
        rw [List.drop_take, restLocal, List.filter_map]
        congr 1
        refine List.filter_congr fun phrase _ => ?_
        simp
        omega
      simp [fits, back]
    · -- What begins with a phrase that is too long is too long as well.
      have nothing : ((rest (text.drop front.length)).map (front ++ ·)).filter
          (fun phrase => decide (phrase.length ≤ count)) = [] := by
        refine List.filter_eq_nil_iff.mpr fun phrase member => ?_
        obtain ⟨back, -, rfl⟩ := List.mem_map.mp member
        simp
        omega
      simp [fits, nothing]

theorem someRun (accepts : Char → Bool) : (Phrases.someRun accepts).IsLocal :=
  (one accepts).andThen (run accepts)

end IsLocal

theorem IsLocal.head?_take {phrases : Phrases} (isLocal : phrases.IsLocal) {text phrase : List Char}
    (preferred : (phrases text).head? = some phrase) :
    (phrases (text.take phrase.length)).head? = some phrase := by
  obtain ⟨others, all⟩ := List.head?_eq_some_iff.mp preferred
  rw [isLocal, all]
  simp

end Phrases

namespace Rule

theorem mayEndBefore_nil (rule : Rule) : rule.mayEndBefore [] = true := by
  unfold mayEndBefore
  cases rule.barred? <;> rfl

section Whole
variable {rule : Rule} {count : Nat} {body : Tree} {phrases : Phrases} (simple : body.Simple)
  (reads : body.Reads phrases) (isLocal : phrases.IsLocal)
  (pattern : rule.pattern = .atStart body count) {cls : TokenClass}
  (labelling : rule.labelling = .whole cls)
include simple reads isLocal pattern labelling

/-- What a rule finds, it finds in the text that it covers too. -/
theorem match?_take {offset : Nat} {text : List Char} {found : Found}
    (finds : rule.match? offset text = some found) :
    rule.match? offset (text.take found.length) = some found := by
  rw [match?_whole simple reads pattern labelling] at finds ⊢
  obtain ⟨phrase, preferred, decided⟩ := Option.bind_eq_some_iff.mp finds
  split at decided
  · rename_i accepted
    cases decided
    have nothing : (text.take phrase.length).drop phrase.length = [] :=
      List.drop_eq_nil_of_le (List.length_take_le _ _)
    rw [isLocal.head?_take preferred, Option.bind_some, nothing,
      if_pos ⟨accepted.1, rule.mayEndBefore_nil⟩]
  · cases decided

/-- A rule without a condition on what follows finds nothing in the beginning of a text in which
it finds nothing. -/
theorem match?_take_eq_none (free : rule.barred? = none) {offset : Nat} {text : List Char}
    (consuming : [] ∉ phrases text) (length : Nat) (none : rule.match? offset text = .none) :
    rule.match? offset (text.take length) = .none := by
  have nothing : phrases text = [] := by
    cases all : phrases text with
    | nil => rfl
    | cons first others =>
      have nonempty : first ≠ [] := by
        rintro rfl
        rw [all] at consuming
        exact consuming List.mem_cons_self
      have mayEnd : rule.mayEndBefore (text.drop first.length) = true := by
        unfold mayEndBefore
        rw [free]
      rw [match?_whole simple reads pattern labelling, all, List.head?_cons, Option.bind_some,
        if_pos ⟨nonempty, mayEnd⟩] at none
      cases none
  rw [match?_whole simple reads pattern labelling, isLocal, nothing]
  rfl

end Whole

end Rule

end Highlighter
