import Highlighter.Proofs.Language.Header

/-!
# Parentheses in headers

A header reaches to the last closing parenthesis of its line.  Its parameters are balanced
exactly if this is the one that closes the parenthesis behind the name.  Where the line goes
on with other parentheses, they hold these too, with all that stands before them.
-/

set_option autoImplicit false

namespace Highlighter.Setanta

/-! ## Balance -/

/-- No parenthesis closes in a text before it opens, and none stays open. -/
@[mk_iff]
structure Balanced (text : List Char) : Prop where
  front : ∀ front, front <+: text → front.count ')' ≤ front.count '('
  total : text.count ')' = text.count '('

/-- The same for a text before which `depth` parentheses are open: they are closed too. -/
@[mk_iff]
structure Closes (depth : Nat) (text : List Char) : Prop where
  front : ∀ front, front <+: text → front.count ')' ≤ depth + front.count '('
  total : text.count ')' = depth + text.count '('

/-- What stands in a text before the parenthesis that closes one which is open there, if there is
such a parenthesis; `depth` others, opened later, close first. -/
def enclosed? (depth : Nat) : List Char → Option (List Char)
  | [] => none
  | c :: rest =>
    if c = ')' then
      match depth with
      | 0 => some []
      | depth + 1 => (enclosed? depth rest).map (c :: ·)
    else (enclosed? (if c = '(' then depth + 1 else depth) rest).map (c :: ·)

section Balance

variable {depth : Nat} {c : Char} {text rest inner : List Char}

theorem balanced_iff_closes : Balanced text ↔ Closes 0 text := by
  rw [balanced_iff, closes_iff]
  simp only [Nat.zero_add]

theorem closes_nil_iff : Closes depth [] ↔ depth = 0 := by
  simp [closes_iff, eq_comm]

/-- The first character is at the front of every beginning but the empty one, which is no
condition. -/
theorem closes_cons_iff : Closes depth (c :: rest) ↔
    (∀ front, front <+: rest → (c :: front).count ')' ≤ depth + (c :: front).count '(') ∧
      (c :: rest).count ')' = depth + (c :: rest).count '(' := by
  rw [closes_iff]
  refine and_congr_left fun _ => ⟨fun all front begins => ?_, fun all front begins => ?_⟩
  · exact all (c :: front) (List.cons_prefix_cons.mpr ⟨rfl, begins⟩)
  · rcases List.prefix_cons_iff.mp begins with rfl | ⟨others, rfl, within⟩
    · exact Nat.zero_le _
    · exact all others within

theorem not_closes_close : ¬Closes 0 (')' :: rest) := by
  intro closes
  have first := closes.front [')'] (List.prefix_append [')'] rest)
  simp at first

theorem closes_close_iff : Closes (depth + 1) (')' :: rest) ↔ Closes depth rest := by
  have counts : ∀ text, (')' :: text).count ')' = text.count ')' + 1 ∧
      (')' :: text).count '(' = text.count '(' := by
    simp
  rw [closes_cons_iff, closes_iff]
  simp only [counts]
  refine and_congr (forall₂_congr fun front _ => ?_) ?_
  · omega
  · omega

theorem closes_other_iff (other : c ≠ ')') :
    Closes depth (c :: rest) ↔ Closes (if c = '(' then depth + 1 else depth) rest := by
  have counts : ∀ text, (c :: text).count ')' = text.count ')' ∧
      depth + (c :: text).count '(' = (if c = '(' then depth + 1 else depth) + text.count '(' := by
    intro text
    refine ⟨List.count_cons_of_ne other, ?_⟩
    by_cases opens : c = '('
    · rw [if_pos opens, opens, List.count_cons_self]
      omega
    · rw [if_neg opens, List.count_cons_of_ne opens]
  rw [closes_cons_iff, closes_iff]
  simp only [counts]

/-- A character that does not close the last open parenthesis is enclosed as well. -/
theorem enclosed?_cons {next : Nat}
    (later : ∀ inner, enclosed? next rest = some inner ↔
      inner ++ [')'] <+: rest ∧ Closes next inner)
    (goesOn : ∀ inner, Closes depth (c :: inner) ↔ Closes next inner)
    (notLast : c = ')' → depth ≠ 0) :
    (enclosed? next rest).map (c :: ·) = some inner ↔
      inner ++ [')'] <+: c :: rest ∧ Closes depth inner := by
  rw [Option.map_eq_some_iff]
  constructor
  · rintro ⟨others, found, rfl⟩
    obtain ⟨begins, closes⟩ := (later others).mp found
    exact ⟨List.cons_prefix_cons.mpr ⟨rfl, begins⟩, (goesOn others).mpr closes⟩
  · rintro ⟨begins, closes⟩
    cases inner with
    | nil =>
      have close : c = ')' := (List.cons_prefix_cons.mp begins).1.symm
      exact absurd (closes_nil_iff.mp closes) (notLast close)
    | cons d inner =>
      obtain ⟨rfl, within⟩ := List.cons_prefix_cons.mp begins
      exact ⟨inner, (later inner).mpr ⟨within, (goesOn inner).mp closes⟩, rfl⟩

/-- What is enclosed closes all that is open in it, and then its own parenthesis closes. -/
theorem enclosed?_eq_some_iff :
    enclosed? depth text = some inner ↔ inner ++ [')'] <+: text ∧ Closes depth inner := by
  induction text generalizing depth inner with
  | nil => simp [enclosed?]
  | cons c rest inductionHypothesis =>
    unfold enclosed?
    by_cases close : c = ')'
    · subst close
      rw [if_pos rfl]
      cases depth with
      | zero =>
        cases inner with
        | nil => simp [closes_nil_iff]
        | cons d inner =>
          refine iff_of_false (fun same => nomatch same) fun ⟨begins, closes⟩ => ?_
          obtain ⟨rfl, -⟩ := List.cons_prefix_cons.mp begins
          exact not_closes_close closes
      | succ depth =>
        exact enclosed?_cons (fun _ => inductionHypothesis) (fun _ => closes_close_iff)
          fun _ => Nat.succ_ne_zero depth
    · rw [if_neg close]
      exact enclosed?_cons (fun _ => inductionHypothesis) (fun _ => closes_other_iff close)
        fun same => absurd same close

/-- An inner pair of parentheses is enclosed as a whole. -/
example : enclosed? 0 "a, (b)) = f(b)".toList = some "a, (b)".toList := by decide

end Balance

/-! ## Headers in their lines -/

section Lines

variable {line inner parameters back : List Char}

/-- What is enclosed in a line ends with its last closing parenthesis or before it. -/
theorem enclosed?_prefix (ends : line = parameters ++ ')' :: back) (last : ')' ∉ back)
    (found : enclosed? 0 line = some inner) : inner <+: parameters := by
  obtain ⟨⟨rest, whole⟩, -⟩ := enclosed?_eq_some_iff.mp found
  have parts : (parameters ++ [')']) ++ back = inner ++ ')' :: rest := by
    simp only [List.append_assoc, List.singleton_append] at whole ⊢
    rw [whole, ends]
  obtain ⟨middle, closed, -⟩ := exists_of_notMem_second parts last
  have begins : inner ++ [')'] <+: parameters ++ [')'] := ⟨middle, by rw [closed]; simp⟩
  rcases List.prefix_concat_iff.mp begins with same | within
  · exact (List.append_cancel_right same) ▸ List.prefix_refl inner
  · exact (List.prefix_append inner [')']).trans within

/-- What stands before a closing parenthesis is balanced if and only if it is enclosed. -/
theorem balanced_iff_enclosed (ends : line = parameters ++ ')' :: back) :
    Balanced parameters ↔ enclosed? 0 line = some parameters := by
  have begins : parameters ++ [')'] <+: line := ⟨back, by rw [ends]; simp⟩
  rw [enclosed?_eq_some_iff, balanced_iff_closes]
  exact ⟨fun closes => ⟨begins, closes⟩, fun both => both.2⟩

/-- A header in the line in which it ends. -/
theorem Header.Heads.exists_line {header : Header} {text : List Char} (heads : header.Heads text) :
    ∃ line after, text = header.opening ++ (line ++ after) ∧ '\n' ∉ line ∧
      (∀ c ∈ after.head?, c = '\n') ∧
      ∃ back, line = header.parameters ++ ')' :: back ∧ ')' ∉ back := by
  obtain ⟨tail, rfl, last⟩ := heads
  refine ⟨header.parameters ++ ')' :: tail.takeWhile (· ≠ '\n'), tail.dropWhile (· ≠ '\n'), ?_, ?_,
    ?_, tail.takeWhile (· ≠ '\n'), rfl, last⟩
  · simp [Header.text, Header.opening]
  · have inTail : '\n' ∉ tail.takeWhile (· ≠ '\n') := by
      intro newline
      have different := List.mem_takeWhile_imp newline
      simp at different
    rw [List.mem_append, List.mem_cons]
    rintro (inside | same | newline)
    · exact header.newline_notMem inside
    · cases same
    · exact inTail newline
  · intro c next
    have stopped := List.head?_dropWhile_not (fun c => decide (c ≠ '\n')) tail
    rw [Option.mem_def.mp next] at stopped
    simpa using stopped

end Lines

/-- The parameters in a header reach to the last closing parenthesis of the line.  So they hold all
that the parenthesis behind the name encloses, and they are balanced if and only if they hold no
more. -/
theorem parameterList_balanced_iff (text : List Char) :
    ∃ table, RuleTable.setanta = .ok table ∧
    ∀ token ∈ table.tokens text, token.cls = .parameterList →
      ∃ step ∈ table.steps text, ∃ (header : Header) (line after back : List Char),
        token ∈ step.tokens ∧ step.tokens = header.tokens step.offset ∧
        token.text = header.parameters ∧
        Utf8.drop? step.offset text = some (header.opening ++ (line ++ after)) ∧
        '\n' ∉ line ∧ (∀ c ∈ after.head?, c = '\n') ∧
        line = token.text ++ ')' :: back ∧ ')' ∉ back ∧
        (Balanced token.text ↔ enclosed? 0 line = some token.text) ∧
        ∀ inner, enclosed? 0 line = some inner → inner <+: token.text := by
  refine ⟨table, setanta_eq, fun token member parameterList => ?_⟩
  obtain ⟨step, stepMember, own⟩ := List.mem_flatMap.mp member
  obtain ⟨before, c, rest, rfl, rfl⟩ := RuleTable.mem_steps stepMember
  have decision := decision_of_token own (by simp [parameterList])
  obtain ⟨found, finds⟩ := match?_of_decision decision
  obtain ⟨header, heads⟩ := exists_heads_of_match? finds
  have tokens := congrArg Step.tokens (step_header heads (Utf8.size before))
  rw [tokens] at own
  have spelled := Header.text_of_parameterList own parameterList
  obtain ⟨line, after, whole, inLine, stops, back, ends, last⟩ := heads.exists_line
  rw [← spelled] at ends
  refine ⟨_, stepMember, header, line, after, back, ?_, ?_, spelled, ?_, inLine, stops, ends, last,
    balanced_iff_enclosed ends, fun inner => enclosed?_prefix ends last⟩
  · rw [tokens]
    exact own
  · rw [tokens, RuleTable.step_offset]
  · rw [RuleTable.step_offset, ← whole]
    exact Utf8.drop?_size_append before (c :: rest)

/-- The parameters of a function on one line hold its body up to the last call. -/
theorem body_in_parameters : ∃ table, RuleTable.setanta = .ok table ∧
    ∃ token ∈ table.tokens "gníomh f(a) \x7b scríobh(a) \x7d".toList, token.cls = .parameterList ∧
      token.text = "a) \x7b scríobh(a".toList ∧ ¬Balanced token.text := by
  refine ⟨table, setanta_eq, .ofText .parameterList "a) \x7b scríobh(a".toList 10, ?_, rfl, rfl, ?_⟩
  · decide +kernel
  · intro balanced
    have front := balanced.front ['a', ')'] ⟨" \x7b scríobh(a".toList, by decide⟩
    exact absurd front (by decide)

end Highlighter.Setanta
