import Highlighter.Proofs.CommandLine.Console
import Highlighter.Proofs.Language.Rules
import Highlighter.Proofs.Output.Ansi
import Highlighter.Proofs.Output.Buffer
import Highlighter.Proofs.Output.Html
import Highlighter.Proofs.Output.Table
import Mathlib.Data.List.TakeDrop

/-!
# What reaches standard output

A renderer that writes to a device stops with the first byte for which there is no
room, and everything before it is on the device.  A run of the program writes
through a buffer: what the buffer has passed on by the end is as safe, while the
loss of what it still holds goes unnoticed.  Standard output is the device behind
that buffer; what it may collect on its own account is not looked at.
-/

set_option autoImplicit false

namespace Highlighter.CommandLine

/-! ## Renderers -/

/-- What is written for tokens of a source in the form asked for. -/
def pieces (colors : Bool) (format : Format) (theme : Theme) (source : List Char)
    (tokens : List Token) : List Piece :=
  match format with
  | .ansi => Ansi.pieces theme colors tokens
  | .html => Html.pieces tokens
  | .tokens => Table.rows displayWidth source .start 0 tokens

theorem render_writes {σ ι : Type} [Output σ] [TokenSource ι] {tokens : ι} {list : List Token}
    {steps : List Step} (yields : Yields tokens list steps) (colors : Bool) (format : Format)
    (theme : Theme) (source : List Char) :
    Writes (σ := σ) (render colors format theme source tokens)
      (pieces colors format theme source list) steps () := by
  cases format with
  | ansi => exact Ansi.render_writes yields theme colors
  | html => exact Html.render_writes yields
  | tokens => exact Table.renderWith_writes yields displayWidth source

/-- The whole output of tokens. -/
def rendered (colors : Bool) (format : Format) (theme : Theme) (source : List Char)
    (tokens : List Token) : Array UInt8 :=
  ((render colors format theme source tokens : Writing Device Unit).run (.empty none)).2.accepted

theorem toList_rendered (colors : Bool) (format : Format) (theme : Theme) (source : List Char)
    (tokens : List Token) : (rendered colors format theme source tokens).toList
      = Utf8.encode (Piece.contents (pieces colors format theme source tokens)) := by
  have writes := render_writes (σ := Device) (.ofList tokens) colors format theme source
  rw [rendered, writes.run_empty none]
  rfl

/-- Whatever is written to, a renderer puts the pieces of its output one after another, and the
first that fails is the last.  So a device takes as much of the output as it has room for, and the
renderer fails exactly if that is not all. -/
theorem render_limited (colors : Bool) (format : Format) (theme : Theme) (source : List Char)
    (tokens : List Token) :
    (∀ (σ : Type) [Output σ] (output : σ),
      (render colors format theme source tokens : Writing σ Unit).run output
        = Writing.ended () (Output.putAll output (pieces colors format theme source tokens))) ∧
    ∃ whole,
      (render colors format theme source tokens).run (Device.empty none) = (.ok (), whole) ∧
      whole.accepted.toList
        = Utf8.encode (Piece.contents (pieces colors format theme source tokens)) ∧
      ∀ room, ∃ limited outcome,
        (render colors format theme source tokens).run (Device.empty (some room))
          = (outcome, limited) ∧
        limited.accepted.toList = whole.accepted.toList.take room ∧
        outcome = if whole.accepted.size ≤ room then .ok () else .error .storageFull := by
  refine ⟨fun σ _ => (render_writes (.ofList tokens) colors format theme source).run_eq, ?_⟩
  have writes := render_writes (σ := Device) (.ofList tokens) colors format theme source
  refine ⟨_, writes.run_empty none, rfl, fun room => ?_⟩
  have run := writes.run_empty (some room)
  by_cases fits : (Utf8.encode (Piece.contents
      (pieces colors format theme source tokens))).length ≤ room
  · rw [Device.within_of_le fits] at run
    exact ⟨_, _, run, (List.take_of_length_le fits).symm, (if_pos fits).symm⟩
  · rw [Device.within_of_lt (Nat.lt_of_not_le fits)] at run
    exact ⟨_, _, run, rfl, (if_neg fits).symm⟩

/-! ## How an output ends -/

section Ends

variable {colors : Bool} {format : Format} {theme : Theme} {source : List Char}
  {tokens : List Token}

theorem flush_not_mem_html : Piece.flush ∉ Html.pieces tokens := by
  have none (token : Token) : Piece.flush ∉ Html.ofToken token := by
    unfold Html.ofToken
    split <;> simp [Piece.ofString]
  simp [Html.pieces, Piece.ofString, none]

theorem flush_not_mem_runs (run text : List Char) : Piece.flush ∉ Table.runs run text := by
  induction text generalizing run with
  | nil => simp [Table.runs]
  | cons c rest inductionHypothesis =>
    unfold Table.runs
    split <;> simp [inductionHypothesis]

theorem flush_not_mem_rows (width : Char → Nat) (position : Position) (offset : Nat) :
    Piece.flush ∉ Table.rows width source position offset tokens := by
  induction tokens generalizing position offset with
  | nil => exact List.not_mem_nil
  | cons token tokens inductionHypothesis =>
    simp [Table.rows, Table.row, Table.quoted, Piece.ofString, flush_not_mem_runs,
      inductionHypothesis]

/-- Only the output for terminals is passed on at its end. -/
theorem flush_not_mem_pieces (silent : format ≠ .ansi) :
    Piece.flush ∉ pieces colors format theme source tokens := by
  cases format with
  | ansi => exact absurd rfl silent
  | html => exact flush_not_mem_html
  | tokens => exact flush_not_mem_rows displayWidth .start 0

theorem rows_ends (width : Char → Nat) (position : Position) (offset : Nat)
    (nonempty : tokens ≠ []) :
    ∃ pieces, Table.rows width source position offset tokens = pieces ++ [.text ['\n']] := by
  induction tokens generalizing position offset with
  | nil => exact absurd rfl nonempty
  | cons token tokens inductionHypothesis =>
    cases tokens with
    | nil =>
      rw [Table.rows, Table.rows, List.append_nil, Table.row, ← List.append_assoc]
      exact ⟨_, rfl⟩
    | cons next tokens =>
      obtain ⟨pieces, later⟩ := inductionHypothesis _ token.stop (List.cons_ne_nil next tokens)
      rw [Table.rows, later]
      exact ⟨_, (List.append_assoc _ _ _).symm⟩

/-- What ends the other outputs is short. -/
theorem pieces_ends (silent : format ≠ .ansi) :
    pieces colors format theme source tokens = [] ∨
      ∃ front content, pieces colors format theme source tokens = front ++ [.text content] ∧
        0 < (Utf8.encode content).length ∧
        (Utf8.encode content).length < Buffer.standardCapacity := by
  cases format with
  | ansi => exact absurd rfl silent
  | html => exact .inr ⟨_ :: _, _, rfl, by decide, by decide⟩
  | tokens =>
    by_cases none : tokens = []
    · rw [none]
      exact .inl rfl
    · obtain ⟨front, ends⟩ := rows_ends displayWidth .start 0 none
      exact .inr ⟨front, ['\n'], ends, by decide, by decide⟩

end Ends

/-! ## Runs -/

/-- What a run needs before it writes: its theme, its rules and its source. -/
def prepared (world : World) (options : Options) :
    Except Failure (Theme × RuleTable × List Char) := do
  let theme ← ThemeFile.load world options.config
  let table ← RuleTable.setanta
  let source ← (readSource world options).mapError .file
  return (theme, table, source)

section Runs

variable {world : World} {options : Options} {theme : Theme} {table : RuleTable}
  {source : List Char}

/-- A run fails before it writes anything, or it goes on to write. -/
theorem runOn_cases (world : World) (options : Options) :
    ((∃ cause, prepared world options = .error cause) ∧ ∀ stdout,
      (runOn world options stdout).code = 1 ∧ (runOn world options stdout).stdout = stdout) ∨
    ∃ theme table source, prepared world options = .ok (theme, table, source) ∧
      ∀ stdout, ∃ events, runOn world options stdout
        = highlight world.colors options.format theme table source stdout events := by
  unfold prepared runOn
  cases ThemeFile.load world options.config with
  | error cause => exact .inl ⟨⟨cause, rfl⟩, fun _ => ⟨rfl, rfl⟩⟩
  | ok theme =>
    cases RuleTable.setanta with
    | error cause => exact .inl ⟨⟨cause, rfl⟩, fun _ => ⟨rfl, rfl⟩⟩
    | ok table =>
      cases readSource world options with
      | error cause => exact .inl ⟨⟨.file cause, rfl⟩, fun _ => ⟨rfl, rfl⟩⟩
      | ok source => exact .inr ⟨theme, table, source, rfl, fun _ => ⟨_, rfl⟩⟩

/-- A source that is written as it is divided is written as all of its tokens are. -/
theorem printSource_ends (colors : Bool) (format : Format) (theme : Theme) (table : RuleTable)
    (source : List Char) (stdout : Device) :
    ∃ ended, (printSource colors format theme table source).run (.before stdout)
        = Writing.ended () ended ∧
      Console.Ends (.before stdout) (pieces colors format theme source (table.tokens source))
        (table.steps source) ended :=
  Console.run_ends (render_writes (.ofStream (.start table source)) colors format theme source)
    (.before stdout)

/-- How the buffer parts what is written for a source. -/
def parted (colors : Bool) (format : Format) (theme : Theme) (table : RuleTable)
    (source : List Char) : Parted :=
  Parted.nothing.takeAll Buffer.standardCapacity
    (pieces colors format theme source (table.tokens source))

theorem printSource_reached (colors : Bool) (format : Format) (theme : Theme) (table : RuleTable)
    (source : List Char) (room : Option Nat) :
    ∃ console failure, (printSource colors format theme table source).run (.before (.empty room))
        = Writing.ended () (console, failure) ∧
      Buffer.Reached room Buffer.standardCapacity (parted colors format theme table source)
        (console.buffer, failure) := by
  obtain ⟨⟨console, failure⟩, run, ends⟩ :=
    printSource_ends colors format theme table source (.empty room)
  have written : (console.buffer, failure) = Output.putAll (Buffer.before (.empty room)) _ :=
    ends.written
  refine ⟨console, failure, run, ?_⟩
  rw [written]
  exact Buffer.putAll_before room _

/-- The whole output is offered to standard output, and that is a success if there is room for what
the buffer has passed on before it is given up. -/
theorem highlight_empty (colors : Bool) (format : Format) (theme : Theme) (table : RuleTable)
    (source : List Char) (room : Option Nat) (events : List Event) :
    let result := highlight colors format theme table source (.empty room) events
    let parted := parted colors format theme table source
    result.stdout = (Device.within room parted.whole).1 ∧
      (result.code = 0 ↔ (Device.within room parted.passed).2 = none) := by
  obtain ⟨console, failure, run, reaches⟩ :=
    printSource_reached colors format theme table source room
  have failed : failure = (Device.within room _).2 := congrArg Prod.snd reaches.device
  unfold highlight
  rw [run]
  intro result parted
  cases failure with
  | none => exact ⟨reaches.close, iff_of_true rfl failed.symm⟩
  | some cause =>
    have error : (1 : UInt32) ≠ 0 := by decide
    have lacks : (Device.within room parted.passed).2 ≠ none := by
      rw [← failed]
      exact Option.some_ne_none cause
    exact ⟨reaches.close, iff_of_false error lacks⟩

theorem runOn_of_ok (ready : prepared world options = .ok (theme, table, source))
    (room : Option Nat) :
    let parted := parted world.colors options.format theme table source
    (runOn world options (.empty room)).stdout = (Device.within room parted.whole).1 ∧
      ((runOn world options (.empty room)).code = 0 ↔
        (Device.within room parted.passed).2 = none) := by
  rcases runOn_cases world options with ⟨⟨cause, fails⟩, -⟩ | ⟨theme, table, source, same, runs⟩
  · rw [fails] at ready
    cases ready
  · rw [same] at ready
    cases ready
    obtain ⟨events, run⟩ := runs (.empty room)
    rw [run]
    exact highlight_empty world.colors options.format theme table source room events

end Runs

/-! ## Outputs that are lost -/

/-- What a run writes to a standard output that takes everything. -/
def output (world : World) (options : Options) : Array UInt8 :=
  (runOn world options (.empty none)).stdout.accepted

/-- How many bytes of its output a run leaves to the moment when its buffer is given up. -/
def unflushed (world : World) (options : Options) : Nat :=
  match prepared world options with
  | .ok (theme, table, source) =>
    ((printSource world.colors options.format theme table source).run
      (.before (.empty none))).2.buffer.held.size
  | .error _ => 0

/-- With so much room on standard output, a run reports success although part of its output has
been lost. -/
def LosesOutput (world : World) (options : Options) (room : Nat) : Prop :=
  (runOn world options (.empty (some room))).code = 0 ∧
    (runOn world options (.empty (some room))).stdout.accepted ≠ output world options

section Lost

variable {world : World} {options : Options} {theme : Theme} {table : RuleTable}
  {source : List Char} (ready : prepared world options = .ok (theme, table, source))
include ready

theorem unflushed_of_ok : unflushed world options
    = (parted world.colors options.format theme table source).kept.length := by
  obtain ⟨console, failure, run, reaches⟩ :=
    printSource_reached world.colors options.format theme table source none
  have taken : failure = none := congrArg Prod.snd reaches.device
  subst taken
  have held : console.buffer = _ := reaches.buffer rfl
  rw [unflushed, ready]
  dsimp only
  rw [run, Writing.ended, held]
  rfl

theorem output_of_ok : (output world options).toList
    = (parted world.colors options.format theme table source).whole := by
  rw [output, (runOn_of_ok ready none).1]
  rfl

theorem size_output : (output world options).size
    = (parted world.colors options.format theme table source).passed.length
      + unflushed world options := by
  rw [← Array.length_toList, output_of_ok ready, unflushed_of_ok ready, Parted.whole,
    List.length_append]

theorem accepted_of_ok (room : Nat) :
    (runOn world options (.empty (some room))).stdout.accepted.toList
      = (output world options).toList.take room := by
  rw [output_of_ok ready, (runOn_of_ok ready _).1]
  rfl

/-- A loss goes unnoticed where there is room for what has been passed on, and not for all. -/
theorem losesOutput_of_ok (room : Nat) :
    LosesOutput world options room ↔
      room < (output world options).size ∧
        (output world options).size ≤ room + unflushed world options := by
  have part : (runOn world options (.empty (some room))).stdout.accepted = output world options
      ↔ (output world options).size ≤ room := by
    rw [← Array.toList_inj, accepted_of_ok ready, List.take_eq_self_iff, Array.length_toList]
  have size := size_output ready
  rw [LosesOutput, (runOn_of_ok ready _).2, Device.within_failure_eq_none, ne_eq, part]
  omega

/-- Only the output for terminals is safe, for it is flushed. -/
theorem unflushed_eq_zero_iff :
    unflushed world options = 0 ↔ options.format = .ansi ∨ output world options = #[] := by
  have size := size_output ready
  rw [unflushed_of_ok ready] at size ⊢
  constructor
  · intro held
    by_contra other
    rw [not_or] at other
    rcases pieces_ends other.1 with nothing | ⟨front, content, ends, positive, short⟩
    · refine other.2 (Array.toList_inj.mp ?_)
      rw [output_of_ok ready, parted, nothing]
      rfl
    · have last := Parted.nothing.takeAll_text front short
      rw [parted, ends] at held
      omega
  · rintro (terminal | nothing)
    · rw [parted, terminal, pieces, Ansi.pieces, Parted.takeAll_flush, List.length_nil]
    · rw [nothing, Array.size_empty] at size
      omega

theorem unflushed_of_short (silent : options.format ≠ .ansi)
    (short : (output world options).size < Buffer.standardCapacity) :
    unflushed world options = (output world options).size := by
  have whole := output_of_ok ready
  rw [parted, Parted.takeAll_whole] at whole
  have fits : Parted.nothing.kept.length + (Utf8.encode (Piece.contents
      (pieces world.colors options.format theme source (table.tokens source)))).length
        < Buffer.standardCapacity := by
    rw [← Array.length_toList, whole] at short
    simpa [Parted.whole, Parted.nothing] using short
  have held := Parted.takeAll_short _ (flush_not_mem_pieces silent) fits
  rw [unflushed_of_ok ready, parted, held, ← Array.length_toList, whole]
  rfl

end Lost

/-- Which outputs can be lost without a report: those that are not flushed, where there is room for
what the buffer has passed on by itself and not for all of the output. -/
theorem losesOutput_iff (world : World) (options : Options) :
    (∀ room,
      (runOn world options (.empty (some room))).stdout.accepted.toList
        = (output world options).toList.take room ∧
      (LosesOutput world options room ↔ room < (output world options).size ∧
        (output world options).size ≤ room + unflushed world options)) ∧
    (unflushed world options = 0 ↔ options.format = .ansi ∨ output world options = #[]) ∧
    (options.format ≠ .ansi → (output world options).size < Buffer.standardCapacity →
      unflushed world options = (output world options).size) := by
  rcases runOn_cases world options with ⟨⟨cause, fails⟩, stays⟩ | ⟨theme, table, source, ready, -⟩
  · have nothing : output world options = #[] := by
      rw [output, (stays _).2]
      rfl
    have held : unflushed world options = 0 := by rw [unflushed, fails]
    rw [nothing, held]
    refine ⟨fun room => ⟨?_, ?_⟩, iff_of_true rfl (.inr rfl), fun _ _ => rfl⟩
    · rw [(stays _).2]
      simp [Device.empty]
    · simp [LosesOutput, stays]
  · exact ⟨fun room => ⟨accepted_of_ok ready room, losesOutput_of_ok ready room⟩,
      unflushed_eq_zero_iff ready, unflushed_of_short ready⟩

/-! ## A keyword whose markup is lost -/

def keywordWorld : World := { World.nowhere with input := .ok "bris".toUTF8 }

def markupOptions : Options := ⟨none, .html, none, 0, false, none⟩

theorem keyword_prepared : prepared keywordWorld markupOptions
    = .ok (.default, Setanta.table, "bris".toList) := by
  have load : ThemeFile.load keywordWorld markupOptions.config = .ok .default := rfl
  have read : readSource keywordWorld markupOptions = .ok "bris".toList := by decide +kernel
  unfold prepared
  rw [load, Setanta.setanta_eq, read]
  rfl

/-- Nothing at all reaches a standard output that is full, and the run succeeds. -/
theorem keyword_lost : parse ["-f", "html"] = .ok (.run markupOptions) ∧
    (runOn keywordWorld markupOptions (.empty (some 0))).code = 0 ∧
    (runOn keywordWorld markupOptions (.empty (some 0))).stdout.accepted = #[] ∧
    (output keywordWorld markupOptions).toList = Utf8.encode
      "<pre class=\"cm-s-default\"><span class=\"cm-keyword\">bris</span></pre>\n".toList := by
  have tokens : Setanta.table.tokens "bris".toList = [.ofText .keyword "bris".toList 0] := by
    decide +kernel
  obtain ⟨stdout, code⟩ := runOn_of_ok keyword_prepared (some 0)
  rw [parted, tokens] at stdout code
  refine ⟨by decide +kernel, code.mpr (by decide +kernel), by rw [stdout]; rfl, ?_⟩
  rw [output_of_ok keyword_prepared, parted, tokens]
  decide +kernel

end Highlighter.CommandLine
