import Highlighter.Proofs.CommandLine.Exit
import Highlighter.Proofs.Scan.AnyOffset

/-!
# The log of a scan

At the lowest level a run reports each step through its source once, in order.  A
report can be checked against the rules and the source alone: it names the first rule
that makes tokens at its place, or the character there if no rule does, and the next
report is of the place where those tokens end.
-/

set_option autoImplicit false

namespace Highlighter

/-! ## The steps through a text, by offsets -/

namespace RuleTable

/-- The first rule that makes tokens at a byte of a text. -/
def ruleAt? (table : RuleTable) (text : List Char) (offset : Nat) : Option Rule :=
  table.rules.find? fun rule => (rule.tokensAt? text offset).isSome

theorem ruleAt?_size_append (table : RuleTable) (before rest : List Char) :
    table.ruleAt? (before ++ rest) (Utf8.size before)
      = (table.firstMatch? (Utf8.size before) rest).map Prod.fst := by
  unfold ruleAt? firstMatch?
  induction table.rules with
  | nil => rfl
  | cons rule rules inductionHypothesis =>
    rw [List.find?_cons, List.findSome?_cons, Rule.tokensAt?_size_append, inductionHypothesis]
    cases rule.match? (Utf8.size before) rest <;> rfl

theorem step_take_ne_nil (table : RuleTable) (offset : Nat) (c : Char) (rest : List Char) :
    (c :: rest).take (table.step offset c rest).length ≠ [] := by
  obtain ⟨positive, -⟩ := table.step_length offset c rest
  rw [ne_eq, List.take_eq_nil_iff, not_or]
  exact ⟨Nat.ne_of_gt positive, List.cons_ne_nil c rest⟩

/-- Steps begin at ever later places. -/
theorem stepsFrom_offsets (table : RuleTable) (offset : Nat) (text : List Char) :
    ((table.stepsFrom offset text).map (·.offset)).Pairwise (· < ·) := by
  refine table.steps_induction (motive := fun offset text =>
    ((table.stepsFrom offset text).map (·.offset)).Pairwise (· < ·)) ?_ ?_ offset text
  · intro offset
    rw [stepsFrom_nil]
    exact .nil
  · intro offset c rest later
    rw [stepsFrom_cons, List.map_cons, List.pairwise_cons]
    refine ⟨?_, later⟩
    intro place member
    obtain ⟨step, among, rfl⟩ := List.mem_map.mp member
    obtain ⟨before, next, after, -, rfl⟩ := table.mem_stepsFrom _ _ step among
    have positive := Utf8.size_pos (table.step_take_ne_nil offset c rest)
    rw [step_offset, step_offset]
    omega

end RuleTable

namespace CommandLine

/-- Where the step was taken that an event reports. -/
def Event.offset? : Event → Option Nat
  | ruleMatched _ offset => some offset
  | noRuleMatched offset _ => some offset
  | _ => none

theorem Event.offset?_ofStep (step : Step) : (ofStep step).offset? = some step.offset := by
  unfold ofStep
  cases step.decision <;> rfl

/-- What is reported of scanning a text with a table from a byte on.  The scan goes on where the
last token of a rule ends, or behind the character that no rule has matched. -/
inductive ScanLog (table : RuleTable) (text : List Char) : Nat → List Event → Prop where
  | done : ScanLog table text (Utf8.size text) []
  | matched {offset : Nat} {rule : Rule} {tokens : List Token} {last : Token}
      {events : List Event} (first : table.ruleAt? text offset = some rule)
      (makes : rule.tokensAt? text offset = some tokens) (ends : tokens.getLast? = some last)
      (further : ScanLog table text last.stop events) :
      ScanLog table text offset (.ruleMatched rule.name offset :: events)
  | unmatched {offset : Nat} {c : Char} {rest : List Char} {events : List Event}
      (nothing : table.ruleAt? text offset = none)
      (stands : Utf8.drop? offset text = some (c :: rest))
      (further : ScanLog table text (offset + c.utf8Size) events) :
      ScanLog table text offset (.noRuleMatched offset c :: events)

/-- A step is reported as it should be, since the first rule that matches decides it. -/
theorem step_scanLog (table : RuleTable) (before : List Char) (c : Char) (rest : List Char)
    {events : List Event} (further : ScanLog table (before ++ c :: rest) (Utf8.size before
      + Utf8.size ((c :: rest).take (table.step (Utf8.size before) c rest).length)) events) :
    ScanLog table (before ++ c :: rest) (Utf8.size before)
      (.ofStep (table.step (Utf8.size before) c rest) :: events) := by
  have first := table.ruleAt?_size_append before (c :: rest)
  have tiles := table.step_tiles (Utf8.size before) c rest
  have nonempty := table.step_tokens_ne_nil (Utf8.size before) c rest
  unfold RuleTable.step at further tiles nonempty ⊢
  cases decides : table.firstMatch? (Utf8.size before) (c :: rest) with
  | none =>
    rw [decides] at first further
    exact .unmatched first (Utf8.drop?_size_append before (c :: rest)) further
  | some pair =>
    obtain ⟨rule, found⟩ := pair
    rw [decides] at first further tiles nonempty
    obtain ⟨-, -, -, finds, -⟩ := RuleTable.firstMatch?_eq_some decides
    have makes : rule.tokensAt? (before ++ c :: rest) (Utf8.size before) = some found.tokens := by
      rw [Rule.tokensAt?_size_append, finds]
      rfl
    -- The step ends where its last token does, and so the scan goes on there.
    have ends := List.getLast?_eq_some_getLast nonempty
    rw [← tiles.last _ ends] at further
    exact .matched first makes ends further

theorem stepsFrom_scanLog (table : RuleTable) (offset : Nat) (rest : List Char) :
    ∀ before, offset = Utf8.size before →
      ScanLog table (before ++ rest) offset ((table.stepsFrom offset rest).map Event.ofStep) := by
  refine table.steps_induction (motive := fun offset rest => ∀ before,
    offset = Utf8.size before →
      ScanLog table (before ++ rest) offset ((table.stepsFrom offset rest).map Event.ofStep))
    ?_ ?_ offset rest
  · rintro offset before rfl
    rw [RuleTable.stepsFrom_nil, List.append_nil]
    exact .done
  · rintro offset c rest later before rfl
    have further := later (before ++ (c :: rest).take
      (table.step (Utf8.size before) c rest).length) (Utf8.size_append _ _).symm
    rw [List.append_assoc, List.take_append_drop] at further
    rw [RuleTable.stepsFrom_cons, List.map_cons]
    exact step_scanLog table before c rest further

/-! ## The log of a run -/

/-- A run reports the first steps through its source, and all of them if it succeeds. -/
theorem highlight_events (colors : Bool) (format : Format) (theme : Theme) (table : RuleTable)
    (source : List Char) (stdout : Device) (events : List Event) :
    let run := highlight colors format theme table source stdout events
    let opening := events ++ [.highlighting (Utf8.size source) format]
    (run.code = 0 → run.events = opening ++ (table.steps source).map .ofStep) ∧
      (run.code ≠ 0 → ∃ scans cause, scans <+: (table.steps source).map Event.ofStep ∧
        run.events = opening ++ scans ++ [.failed cause]) := by
  obtain ⟨⟨console, failure⟩, run, ends⟩ :=
    printSource_ends colors format theme table source stdout
  unfold highlight
  rw [run]
  cases failure with
  | none =>
    have scanned : console.steps.toList = table.steps source := ends.complete rfl
    dsimp only [Writing.ended]
    rw [scanned]
    exact ⟨fun _ => rfl, fun fails => absurd rfl fails⟩
  | some cause =>
    have scanned : console.steps.toList <+: table.steps source := ends.taken
    exact ⟨fun succeeds => absurd succeeds (by simp [Writing.ended, Result.failure]),
      fun _ => ⟨_, .file cause, scanned.map Event.ofStep, rfl⟩⟩

theorem isLogged_trace (event : Event) : event.isLogged .trace := by
  cases event <;> rfl

/-- At the lowest level the log of a run that succeeds holds all of its reports. -/
theorem log_of_trace {options : Options} (lowest : options.logLevel = .trace) (result : Result) :
    (Report.ofResult options result).log = result.events.map Event.line := by
  have all : result.events.filter (·.isLogged options.logLevel) = result.events := by
    rw [lowest, List.filter_eq_self]
    exact fun event _ => isLogged_trace event
  unfold Report.ofResult
  rw [all]

/-- A run that succeeds reports each step through its source once and in order, whatever the form
of its output is.  The places grow from the first byte on, and each report is of the rule, or of
the character, that is decisive there. -/
theorem log_scans (source : List Char) :
    let scans := (Setanta.table.steps source).map Event.ofStep
    ScanLog Setanta.table source 0 scans ∧
    scans.filterMap Event.offset? = (Setanta.table.steps source).map (·.offset) ∧
    (scans.filterMap Event.offset?).Pairwise (· < ·) ∧
    (source ≠ [] → (scans.filterMap Event.offset?).head? = some 0) ∧
    ∀ (world : World) (arguments : List String) (options : Options) (stdout : Device),
      parse arguments = .ok (.run options) → options.logLevel = .trace →
      readSource world options = .ok source → (execute world arguments stdout).code = 0 →
      (execute world arguments stdout).log = (openingEvents world options
        ++ [Event.highlighting (Utf8.size source) options.format] ++ scans).map Event.line := by
  intro scans
  have places : scans.filterMap Event.offset? = (Setanta.table.steps source).map (·.offset) := by
    rw [List.filterMap_map, ← List.filterMap_eq_map]
    exact List.filterMap_congr fun step _ => Event.offset?_ofStep step
  refine ⟨stepsFrom_scanLog Setanta.table 0 source [] rfl, places, ?_, ?_, ?_⟩
  · rw [places]
    exact Setanta.table.stepsFrom_offsets 0 source
  · intro nonempty
    obtain ⟨c, rest, rfl⟩ := List.exists_cons_of_ne_nil nonempty
    rw [places, RuleTable.steps, RuleTable.stepsFrom_cons, List.map_cons, List.head?_cons,
      RuleTable.step_offset]
  · intro world arguments options stdout accepted lowest reads succeeds
    rw [execute_run world accepted] at succeeds ⊢
    rw [log_of_trace lowest]
    cases loads : ThemeFile.load world options.config with
    | error cause =>
      rw [runOn_of_load_error loads] at succeeds
      have failed : (1 : UInt32) = 0 := succeeds
      exact absurd failed (by decide)
    | ok theme =>
      rw [runOn_of_source loads reads] at succeeds ⊢
      exact congrArg (List.map Event.line) ((highlight_events _ _ _ _ _ _ _).1 succeeds)

/-- A header is one step, although it makes six tokens. -/
theorem log_scans_header :
    let world := { World.nowhere with input := .ok "gníomh f(a) x".toUTF8 }
    (execute world ["-vvv", "--format", "html"] (.empty none)).log =
      ["DEBUG no config file, using defaults", "DEBUG compiled Setanta rule table rules=8",
        "DEBUG highlighting bytes=14 format=Html",
        "TRACE rule matched rule=function_header offset=0",
        "TRACE no rule matched offset=12 character=' '",
        "TRACE rule matched rule=identifier offset=13"] := by
  intro world
  have accepted : parse ["-vvv", "--format", "html"]
      = .ok (.run ⟨none, .html, none, 3, false, none⟩) := by decide +kernel
  have loads : ThemeFile.load world none = .ok .default := rfl
  have reads : readSource world ⟨none, .html, none, 3, false, none⟩
      = .ok "gníomh f(a) x".toList := by decide +kernel
  have succeeds := (execute_unlimited accepted loads reads).1
  have scans : (Setanta.table.steps "gníomh f(a) x".toList).map Event.ofStep =
      [.ruleMatched "function_header" 0, .noRuleMatched 12 ' ',
        .ruleMatched "identifier" 13] := by
    decide +kernel
  obtain ⟨-, -, -, -, logs⟩ := log_scans "gníomh f(a) x".toList
  rw [logs world _ _ _ accepted rfl reads succeeds, scans]
  decide +kernel

end CommandLine

end Highlighter
