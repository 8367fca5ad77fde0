import Highlighter.Scan.Lines
import Highlighter.Proofs.Pattern.Locality
import Highlighter.Proofs.Scan.Steps

/-!
# Dividing a text line by line

A rule whose pattern never reaches over a line feed finds the same in a line
alone as in the whole text, for the line feed is the one character after the
match that can matter.  So the steps through a text are those through its first
line and then those through the rest, and a text that is divided line by line
is divided as it is as a whole.
-/

set_option autoImplicit false

namespace Highlighter

/-- No match has a line feed between where the search began and its end. -/
def Pattern.StaysInLine (pattern : Pattern) : Prop :=
  ∀ text found, pattern.find? text = some found → '\n' ∉ text.take found.span.stop

theorem Pattern.stop_le_of_staysInLine {pattern : Pattern} (stays : pattern.StaysInLine)
    {shared rest : List Char} {found : Match}
    (finds : pattern.find? (shared ++ '\n' :: rest) = some found) :
    found.span.stop ≤ shared.length := by
  by_contra beyond
  refine stays _ found finds ?_
  rw [List.take_append, List.take_of_length_le (by omega)]
  obtain ⟨count, total⟩ : ∃ count, found.span.stop - shared.length = count + 1 :=
    ⟨found.span.stop - shared.length - 1, by omega⟩
  rw [total, List.take_succ_cons]
  exact List.mem_append_right _ List.mem_cons_self

namespace Rule

theorem mayEndBefore_cons (rule : Rule) (c : Char) (first second : List Char) :
    rule.mayEndBefore (c :: first) = rule.mayEndBefore (c :: second) := by
  unfold mayEndBefore
  cases rule.barred? <;> rfl

/-- What a rule finds in a line does not depend on what follows the line. -/
theorem match?_line {rule : Rule} (stays : rule.pattern.StaysInLine) (offset : Nat)
    (shared first second : List Char) :
    rule.match? offset (shared ++ '\n' :: first)
      = rule.match? offset (shared ++ '\n' :: second) := by
  have search : rule.pattern.find? (shared ++ '\n' :: first)
      = rule.pattern.find? (shared ++ '\n' :: second) := by
    rcases rule.pattern.find?_agree shared '\n' first second with same | ⟨found, stop, finds⟩
    · exact same
    · rcases finds with finds | finds
      · have bounded := Pattern.stop_le_of_staysInLine stays finds
        omega
      · have bounded := Pattern.stop_le_of_staysInLine stays finds
        omega
  unfold match?
  rw [← search]
  cases finds : rule.pattern.find? (shared ++ '\n' :: first) with
  | none => rfl
  | some found =>
    have bounded := Pattern.stop_le_of_staysInLine stays finds
    have ends : rule.mayEndBefore ((shared ++ '\n' :: first).drop found.span.stop)
        = rule.mayEndBefore ((shared ++ '\n' :: second).drop found.span.stop) := by
      rw [List.drop_append_of_le_length bounded, List.drop_append_of_le_length bounded]
      cases shared.drop found.span.stop with
      | nil => exact rule.mayEndBefore_cons '\n' first second
      | cons c rest => exact rule.mayEndBefore_cons c _ _
    have agree : (shared ++ '\n' :: first).take found.span.stop
        = (shared ++ '\n' :: second).take found.span.stop := by
      rw [List.take_append_of_le_length bounded, List.take_append_of_le_length bounded]
    have tokens := rule.labelling.tokens_agree offset (rule.pattern.find?_within finds) agree
    simp only [ends, tokens]

end Rule

namespace Line

/-- A line is complete if it ends with a line feed; what is left of it is complete too. -/
def Complete (line : List Char) : Prop :=
  ∀ c ∈ line.getLast?, c = '\n'

theorem Complete.concat (segment : List Char) : Complete (segment ++ ['\n']) := by
  intro c member
  rw [List.getLast?_concat] at member
  cases member
  rfl

theorem Complete.drop {line : List Char} (complete : Complete line) (count : Nat) :
    Complete (line.drop count) := by
  intro c member
  rw [List.getLast?_drop] at member
  split at member
  · cases member
  · exact complete c member

theorem Complete.eq_append {c : Char} {rest : List Char} (complete : Complete (c :: rest)) :
    ∃ shared, c :: rest = shared ++ ['\n'] := by
  have last : '\n' = (c :: rest).getLast (List.cons_ne_nil c rest) := by
    refine (complete _ ?_).symm
    rw [List.getLast?_eq_some_getLast (List.cons_ne_nil c rest)]
    rfl
  refine ⟨(c :: rest).dropLast, ?_⟩
  rw [last]
  exact (List.dropLast_append_getLast (List.cons_ne_nil c rest)).symm

/-- Each line has its line feed at the end, but for a last line that may have none. -/
inductive Divides : List Char → List (List Char) → Prop where
  | nothing : Divides [] []
  | unended {segment : List Char} (nonempty : segment ≠ []) (inLine : '\n' ∉ segment) :
      Divides segment [segment]
  | ended {segment rest : List Char} {segments : List (List Char)} (inLine : '\n' ∉ segment)
      (later : Divides rest segments) :
      Divides ((segment ++ ['\n']) ++ rest) ((segment ++ ['\n']) :: segments)

theorem split_divides (text : List Char) : Divides text (split text) := by
  induction text with
  | nil => exact .nothing
  | cons c rest inductionHypothesis =>
    rw [split]
    by_cases newline : c = '\n'
    · rw [if_pos newline, newline]
      exact .ended List.not_mem_nil inductionHypothesis
    · rw [if_neg newline]
      have notFirst (segment : List Char) (inLine : '\n' ∉ segment) : '\n' ∉ c :: segment :=
        List.not_mem_cons_of_ne_of_not_mem (Ne.symm newline) inLine
      generalize split rest = segments at inductionHypothesis ⊢
      cases inductionHypothesis with
      | nothing => exact .unended (List.cons_ne_nil c []) (notFirst [] List.not_mem_nil)
      | unended nonempty inLine => exact .unended (List.cons_ne_nil c _) (notFirst _ inLine)
      | ended inLine later => exact .ended (notFirst _ inLine) later

end Line

namespace RuleTable

variable {table : RuleTable}

/-- A step in a line that is complete is the same whatever follows the line. -/
theorem step_line (stays : ∀ rule ∈ table.rules, rule.pattern.StaysInLine) (offset : Nat)
    {c : Char} {rest : List Char} (complete : Line.Complete (c :: rest)) (more : List Char) :
    table.step offset c (rest ++ more) = table.step offset c rest := by
  obtain ⟨shared, line⟩ := complete.eq_append
  have first : table.firstMatch? offset (c :: (rest ++ more))
      = table.firstMatch? offset (c :: rest) := by
    refine firstMatch?_agree fun rule member => ?_
    rw [← List.cons_append, line, List.append_assoc]
    exact Rule.match?_line (stays rule member) offset shared more []
  unfold step
  rw [first]

/-- A line feed is passed over as a plain token of its own. -/
theorem step_newline (stays : ∀ rule ∈ table.rules, rule.pattern.StaysInLine) (offset : Nat)
    (rest : List Char) :
    table.step offset '\n' rest
      = ⟨offset, .unmatched '\n', 1, [.ofText .plain ['\n'] offset]⟩ := by
  rcases table.step_cases offset '\n' rest with ⟨rule, member, found, search, -⟩ | ⟨-, same⟩
  · obtain ⟨matched, finds, nonempty, -, -⟩ := Rule.match?_eq_some search
    have bounded : matched.span.stop ≤ ([] : List Char).length :=
      Pattern.stop_le_of_staysInLine (stays rule member) finds
    exact absurd (Nat.le_zero.mp bounded) nonempty
  · exact same

/-- A step that takes a line feed begins with it. -/
theorem eq_newline_of_mem_take (stays : ∀ rule ∈ table.rules, rule.pattern.StaysInLine)
    {offset : Nat} {c : Char} {rest : List Char}
    (newline : '\n' ∈ (c :: rest).take (table.step offset c rest).length) : c = '\n' := by
  rcases table.step_cases offset c rest with ⟨rule, member, found, search, same⟩ | ⟨-, same⟩
  · obtain ⟨matched, finds, -, -, rfl⟩ := Rule.match?_eq_some search
    rw [same] at newline
    exact absurd newline (stays rule member _ matched finds)
  · rw [same] at newline
    exact (List.mem_singleton.mp newline).symm

/-- Each line feed is a token, wherever it stands. -/
theorem newline_mem_stepsFrom (stays : ∀ rule ∈ table.rules, rule.pattern.StaysInLine)
    (offset : Nat) (text : List Char) : ∀ before after, text = before ++ '\n' :: after →
      .ofText .plain ['\n'] (offset + Utf8.size before)
        ∈ (table.stepsFrom offset text).flatMap (·.tokens) := by
  refine table.steps_induction (motive := fun offset text =>
    ∀ before after, text = before ++ '\n' :: after →
      .ofText .plain ['\n'] (offset + Utf8.size before)
        ∈ (table.stepsFrom offset text).flatMap (·.tokens)) ?_ ?_ offset text
  · intro offset before after nothing
    cases before <;> cases nothing
  · intro offset c rest later before after whole
    have taken := List.take_append_drop (table.step offset c rest).length (c :: rest)
    rw [stepsFrom_cons, List.flatMap_cons, List.mem_append]
    by_cases newline : '\n' ∈ (c :: rest).take (table.step offset c rest).length
    · obtain rfl := eq_newline_of_mem_take stays newline
      rw [step_newline stays] at later ⊢
      cases before with
      | nil => exact .inl (List.mem_singleton_self _)
      | cons d before =>
        obtain ⟨rfl, behind⟩ := List.cons.inj whole
        have placed := later before after behind
        rw [Nat.add_assoc] at placed
        exact .inr placed
    · -- A line feed behind the step lies in the rest of the text.
      obtain ⟨middle, rfl, behind⟩ := exists_of_notMem_first (taken.trans whole) newline
      have placed := later middle after behind
      rw [Nat.add_assoc, ← Utf8.size_append] at placed
      exact .inr placed

/-- A token with a line feed is this line feed. -/
theorem eq_newline_of_mem_text (stays : ∀ rule ∈ table.rules, rule.pattern.StaysInLine)
    {text : List Char} {token : Token} (member : token ∈ table.tokens text)
    (newline : '\n' ∈ token.text) : token = .ofText .plain ['\n'] token.start := by
  have tiles := table.stepsFrom_tiles 0 text
  obtain ⟨front, back, split, -, placed⟩ := tiles.exists_split token member
  obtain ⟨first, last, inside⟩ := List.append_of_mem newline
  have whole : text = (front ++ first) ++ '\n' :: (last ++ back) := by
    rw [split, inside]
    simp
  have own := newline_mem_stepsFrom stays 0 text _ _ whole
  -- The token and the line feed lie over the same byte.
  have starts : token.start = 0 + Utf8.size front := congrArg Token.start placed
  have positive := Utf8.size_pos (List.cons_ne_nil '\n' [])
  have reaches : token.start ≤ 0 + Utf8.size (front ++ first) := by
    rw [starts, Utf8.size_append]
    omega
  have covers : 0 + Utf8.size (front ++ first) < token.stop := by
    have longer := Utf8.size_pos (List.cons_ne_nil '\n' last)
    rw [tiles.stop_eq member, starts, inside, Utf8.size_append, Utf8.size_append]
    omega
  have same := tiles.eq_of_over token member _ own reaches covers (Nat.le_refl _)
    (Nat.lt_add_of_pos_right positive)
  rw [same]
  rfl

/-- The steps through a line and what follows it. -/
theorem stepsFrom_line (stays : ∀ rule ∈ table.rules, rule.pattern.StaysInLine)
    (more : List Char) (offset : Nat) (line : List Char) (complete : Line.Complete line) :
    table.stepsFrom offset (line ++ more)
      = table.stepsFrom offset line ++ table.stepsFrom (offset + Utf8.size line) more := by
  revert complete
  refine table.steps_induction (motive := fun offset line => Line.Complete line →
    table.stepsFrom offset (line ++ more)
      = table.stepsFrom offset line ++ table.stepsFrom (offset + Utf8.size line) more)
    ?_ ?_ offset line
  · intro offset _
    rw [stepsFrom_nil, List.nil_append, List.nil_append, Utf8.size_nil, Nat.add_zero]
  · intro offset c rest later complete
    obtain ⟨-, bounded⟩ := table.step_length offset c rest
    have further := later (complete.drop _)
    rw [List.cons_append, stepsFrom_cons, step_line stays offset complete, stepsFrom_cons,
      ← List.cons_append, List.take_append_of_le_length bounded,
      List.drop_append_of_le_length bounded, further, List.cons_append, Nat.add_assoc,
      ← Utf8.size_append, List.take_append_drop]

theorem line_tokens (table : RuleTable) (index offset : Nat) (text : List Char) :
    (table.line index offset text).tokens
      = (table.stepsFrom offset text).flatMap (·.tokens) :=
  (table.stepsFrom_tokens offset text).symm

theorem linesFrom_tokens (stays : ∀ rule ∈ table.rules, rule.pattern.StaysInLine)
    {text : List Char} {segments : List (List Char)} (divides : Line.Divides text segments)
    (index offset : Nat) :
    (table.linesFrom index offset segments).flatMap (·.tokens)
      = (table.stepsFrom offset text).flatMap (·.tokens) := by
  induction divides generalizing index offset with
  | nothing =>
    rw [linesFrom, stepsFrom_nil]
    rfl
  | unended nonempty inLine =>
    rw [linesFrom, List.flatMap_cons, line_tokens]
    exact List.append_nil _
  | @ended segment rest segments inLine later inductionHypothesis =>
    rw [linesFrom, List.flatMap_cons, line_tokens, inductionHypothesis, ← List.flatMap_append,
      stepsFrom_line stays rest offset _ (Line.Complete.concat segment)]

/-- Where no rule reaches over a line feed, the tokens of the lines are those of the text. -/
theorem lines_tokens (stays : ∀ rule ∈ table.rules, rule.pattern.StaysInLine)
    (text : List Char) : (table.lines text).flatMap (·.tokens) = table.tokens text :=
  linesFrom_tokens stays (Line.split_divides text) 0 0

end RuleTable

end Highlighter
