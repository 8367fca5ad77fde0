import Highlighter.Scan.Steps
import Highlighter.Proofs.Rule.Cover

/-!
# The steps through a text

Each step covers one character at least and no more than the text that is
left, and its tokens tile what it covers.  So the steps tile the text, and each
of them is the step at a place between two characters.
-/

set_option autoImplicit false

namespace Highlighter

/-- The same step `distance` bytes further on. -/
def Step.shift (distance : Nat) (step : Step) : Step :=
  { step with
    offset := step.offset + distance
    tokens := step.tokens.map (·.shift distance) }

namespace RuleTable

variable {table : RuleTable}

/-- The first rule that matches is one of the table, and none before it matches. -/
theorem firstMatch?_eq_some {offset : Nat} {text : List Char} {rule : Rule} {found : Rule.Found}
    (finds : table.firstMatch? offset text = some (rule, found)) :
    ∃ earlier later, table.rules = earlier ++ rule :: later ∧
      rule.match? offset text = some found ∧
      ∀ other ∈ earlier, other.match? offset text = none := by
  unfold firstMatch? at finds
  obtain ⟨earlier, chosen, later, split, matches_, none⟩ := List.findSome?_eq_some_iff.mp finds
  obtain ⟨own, search, same⟩ := Option.map_eq_some_iff.mp matches_
  cases same
  refine ⟨earlier, later, split, search, ?_⟩
  intro other member
  exact Option.map_eq_none_iff.mp (none other member)

/-- Two texts in which each rule finds the same have the same first match. -/
theorem firstMatch?_agree {offset : Nat} {text other : List Char}
    (agree : ∀ rule ∈ table.rules, rule.match? offset text = rule.match? offset other) :
    table.firstMatch? offset text = table.firstMatch? offset other := by
  obtain ⟨rules⟩ := table
  unfold firstMatch?
  dsimp only at agree ⊢
  induction rules with
  | nil => rfl
  | cons rule rules inductionHypothesis =>
    rw [List.findSome?_cons, List.findSome?_cons, agree rule List.mem_cons_self,
      inductionHypothesis fun later member => agree later (List.mem_cons_of_mem _ member)]

/-- A step follows a match of some rule, or passes over one character. -/
theorem step_cases (table : RuleTable) (offset : Nat) (c : Char) (rest : List Char) :
    (∃ rule ∈ table.rules, ∃ found, rule.match? offset (c :: rest) = some found ∧
      table.step offset c rest = ⟨offset, .matched rule.name, found.length, found.tokens⟩) ∨
    (table.firstMatch? offset (c :: rest) = none ∧
      table.step offset c rest = ⟨offset, .unmatched c, 1, [.ofText .plain [c] offset]⟩) := by
  unfold step
  cases first : table.firstMatch? offset (c :: rest) with
  | none => exact .inr ⟨rfl, rfl⟩
  | some pair =>
    obtain ⟨rule, found⟩ := pair
    obtain ⟨earlier, later, split, search, -⟩ := firstMatch?_eq_some first
    have member : rule ∈ table.rules := by
      rw [split]
      exact List.mem_append_right _ List.mem_cons_self
    exact .inl ⟨rule, member, found, search, rfl⟩

/-- The first rule that matches decides a step. -/
theorem step_of_match? (table : RuleTable) (earlier : List Rule) {later : List Rule}
    {rule : Rule} {offset : Nat} {c : Char} {rest : List Char} {found : Rule.Found}
    (split : table.rules = earlier ++ rule :: later)
    (none : ∀ other ∈ earlier, other.match? offset (c :: rest) = .none)
    (finds : rule.match? offset (c :: rest) = some found) :
    table.step offset c rest = ⟨offset, .matched rule.name, found.length, found.tokens⟩ := by
  have first : table.firstMatch? offset (c :: rest) = some (rule, found) := by
    refine List.findSome?_eq_some_iff.mpr ⟨earlier, rule, later, split, ?_, ?_⟩
    · rw [finds]
      rfl
    · intro other member
      rw [none other member]
      rfl
  unfold step
  rw [first]

theorem step_offset (table : RuleTable) (offset : Nat) (c : Char) (rest : List Char) :
    (table.step offset c rest).offset = offset := by
  rcases table.step_cases offset c rest with ⟨_, _, _, _, same⟩ | ⟨_, same⟩ <;> rw [same]

theorem step_length (table : RuleTable) (offset : Nat) (c : Char) (rest : List Char) :
    0 < (table.step offset c rest).length ∧
      (table.step offset c rest).length ≤ (c :: rest).length := by
  rcases table.step_cases offset c rest with ⟨rule, _, found, search, same⟩ | ⟨_, same⟩
  · rw [same]
    exact Rule.match?_length search
  · rw [same]
    exact ⟨Nat.one_pos, Nat.succ_le_succ (Nat.zero_le _)⟩

theorem step_tiles (table : RuleTable) (offset : Nat) (c : Char) (rest : List Char) :
    Tiles offset ((c :: rest).take (table.step offset c rest).length)
      (table.step offset c rest).tokens := by
  rcases table.step_cases offset c rest with ⟨rule, _, found, search, same⟩ | ⟨_, same⟩
  · rw [same]
    exact Rule.match?_tiles search
  · rw [same]
    exact .single .plain offset (List.cons_ne_nil c [])

/-- A step covers a character, so it has a token. -/
theorem step_tokens_ne_nil (table : RuleTable) (offset : Nat) (c : Char) (rest : List Char) :
    (table.step offset c rest).tokens ≠ [] := by
  intro none
  have joined := (table.step_tiles offset c rest).joined
  have length := table.step_length offset c rest
  rw [none, List.flatMap_nil] at joined
  rcases List.take_eq_nil_iff.mp joined.symm with zero | empty
  · omega
  · cases empty

/-! ## All steps -/

theorem stepsFrom_nil (table : RuleTable) (offset : Nat) : table.stepsFrom offset [] = [] := by
  rw [stepsFrom]

theorem drop_step (table : RuleTable) (offset : Nat) (c : Char) (rest : List Char) :
    (c :: rest).drop (table.step offset c rest).length
      = rest.drop ((table.step offset c rest).length - 1) := by
  obtain ⟨positive, -⟩ := table.step_length offset c rest
  obtain ⟨count, total⟩ := Nat.exists_eq_succ_of_ne_zero (Nat.ne_of_gt positive)
  rw [total, Nat.succ_eq_add_one, List.drop_succ_cons, Nat.add_sub_cancel]

theorem stepsFrom_cons (table : RuleTable) (offset : Nat) (c : Char) (rest : List Char) :
    table.stepsFrom offset (c :: rest)
      = table.step offset c rest
        :: table.stepsFrom
            (offset + Utf8.size ((c :: rest).take (table.step offset c rest).length))
            ((c :: rest).drop (table.step offset c rest).length) := by
  rw [stepsFrom, drop_step]

/-- What holds at the end of a text, and where a step begins if it holds where the step ends, holds
of every text. -/
theorem steps_induction (table : RuleTable) {motive : Nat → List Char → Prop}
    (done : ∀ offset, motive offset [])
    (next : ∀ offset c rest,
      motive (offset + Utf8.size ((c :: rest).take (table.step offset c rest).length))
        ((c :: rest).drop (table.step offset c rest).length) → motive offset (c :: rest))
    (offset : Nat) (text : List Char) : motive offset text := by
  induction total : text.length using Nat.strong_induction_on generalizing offset text with
  | _ count inductionHypothesis =>
    cases text with
    | nil => exact done offset
    | cons c rest =>
      obtain ⟨positive, -⟩ := table.step_length offset c rest
      refine next offset c rest (inductionHypothesis _ ?_ _ _ rfl)
      rw [List.length_drop, ← total, List.length_cons]
      omega

/-- Tables with the same first match everywhere make the same steps. -/
theorem stepsFrom_congr {table other : RuleTable}
    (same : ∀ offset text, other.firstMatch? offset text = table.firstMatch? offset text)
    (offset : Nat) (text : List Char) : other.stepsFrom offset text = table.stepsFrom offset text := by
  have step (offset : Nat) (c : Char) (rest : List Char) :
      other.step offset c rest = table.step offset c rest := by
    unfold RuleTable.step
    rw [same]
  refine table.steps_induction (motive := fun offset text =>
    other.stepsFrom offset text = table.stepsFrom offset text) ?_ ?_ offset text
  · intro offset
    rw [stepsFrom_nil, stepsFrom_nil]
  · intro offset c rest later
    rw [stepsFrom_cons, stepsFrom_cons, step, later]

/-- The tokens of all steps tile the text. -/
theorem stepsFrom_tiles (table : RuleTable) (offset : Nat) (text : List Char) :
    Tiles offset text ((table.stepsFrom offset text).flatMap (·.tokens)) := by
  refine table.steps_induction (motive := fun offset text =>
    Tiles offset text ((table.stepsFrom offset text).flatMap (·.tokens))) ?_ ?_ offset text
  · intro offset
    rw [stepsFrom_nil]
    exact .done offset
  · intro offset c rest later
    have whole := (table.step_tiles offset c rest).append later
    rw [List.take_append_drop] at whole
    rwa [stepsFrom_cons, List.flatMap_cons]

/-- Each step is the step at a place between two characters. -/
theorem mem_stepsFrom (table : RuleTable) (offset : Nat) (text : List Char) :
    ∀ step ∈ table.stepsFrom offset text, ∃ before c rest, text = before ++ c :: rest ∧
      step = table.step (offset + Utf8.size before) c rest := by
  refine table.steps_induction (motive := fun offset text =>
    ∀ step ∈ table.stepsFrom offset text, ∃ before c rest, text = before ++ c :: rest ∧
      step = table.step (offset + Utf8.size before) c rest) ?_ ?_ offset text
  · intro offset step member
    rw [stepsFrom_nil] at member
    cases member
  · intro offset c rest later step member
    rw [stepsFrom_cons] at member
    rcases List.mem_cons.mp member with same | other
    · exact ⟨[], c, rest, rfl, same⟩
    · obtain ⟨before, next, after, split, same⟩ := later step other
      refine ⟨(c :: rest).take (table.step offset c rest).length ++ before, next, after, ?_, ?_⟩
      · rw [List.append_assoc, ← split, List.take_append_drop]
      · rw [Utf8.size_append, ← Nat.add_assoc]
        exact same

theorem mem_steps {text : List Char} {step : Step} (member : step ∈ table.steps text) :
    ∃ before c rest, text = before ++ c :: rest ∧
      step = table.step (Utf8.size before) c rest := by
  have place := table.mem_stepsFrom 0 text step member
  simpa only [Nat.zero_add] using place

/-! ## Moving the text -/

theorem firstMatch?_shift (table : RuleTable) (offset distance : Nat) (text : List Char) :
    table.firstMatch? (offset + distance) text
      = (table.firstMatch? offset text).map fun (rule, found) =>
          (rule, ⟨found.length, found.tokens.map (·.shift distance)⟩) := by
  unfold firstMatch?
  induction table.rules with
  | nil => rfl
  | cons rule rules inductionHypothesis =>
    rw [List.findSome?_cons, List.findSome?_cons, inductionHypothesis, Rule.match?_shift]
    cases rule.match? offset text <;> rfl

theorem step_shift (table : RuleTable) (offset distance : Nat) (c : Char) (rest : List Char) :
    table.step (offset + distance) c rest = (table.step offset c rest).shift distance := by
  unfold step
  rw [firstMatch?_shift]
  cases table.firstMatch? offset (c :: rest) with
  | none =>
    simp only [Option.map_none, Step.shift, Token.shift, Token.ofText, List.map_cons, List.map_nil]
    rw [Nat.add_right_comm]
  | some pair => rfl

/-- The steps through a text do not depend on where it begins, but for their places. -/
theorem stepsFrom_shift (table : RuleTable) (offset distance : Nat) (text : List Char) :
    table.stepsFrom (offset + distance) text
      = (table.stepsFrom offset text).map (·.shift distance) := by
  refine table.steps_induction (motive := fun offset text =>
    table.stepsFrom (offset + distance) text
      = (table.stepsFrom offset text).map (·.shift distance)) ?_ ?_ offset text
  · intro offset
    rw [stepsFrom_nil, stepsFrom_nil, List.map_nil]
  · intro offset c rest later
    have length : ((table.step offset c rest).shift distance).length
        = (table.step offset c rest).length := rfl
    rw [stepsFrom_cons, stepsFrom_cons, List.map_cons, ← later, step_shift, length,
      Nat.add_right_comm]

/-- The tokens of a text that stands at `offset`. -/
theorem stepsFrom_tokens (table : RuleTable) (offset : Nat) (text : List Char) :
    (table.stepsFrom offset text).flatMap (·.tokens)
      = (table.tokens text).map (·.shift offset) := by
  have moved := table.stepsFrom_shift 0 offset text
  rw [Nat.zero_add] at moved
  rw [moved, List.flatMap_map, tokens, List.map_flatMap]
  rfl

end RuleTable

end Highlighter
