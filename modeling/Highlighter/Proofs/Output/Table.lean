import Highlighter.Output.Table
import Highlighter.Proofs.Output.Device
import Highlighter.Proofs.Pattern.FirstReading
import Highlighter.Proofs.Pattern.Phrases
import Highlighter.Proofs.Scan.Steps
import Highlighter.Proofs.Text.Position
import Highlighter.Proofs.Text.Quoted

/-!
# Tokens in a table

A table of tokens can be read again: line breaks end its rows, tabs divide them,
and neither stands inside a position, a name or a quoted text.  The position of a
row is carried from token to token, over the text that stands between them; for
tokens of the source it is the one computed from the start of the source.
-/

set_option autoImplicit false

namespace Highlighter.Table

/-! ## What is written -/

def runs (run : List Char) : List Char → List Piece
  | [] => [.text run.reverse]
  | c :: rest =>
    if (Quoted.encodeChar '"' c).length = 1 then runs (c :: run) rest
    else .text run.reverse :: .text (Quoted.encodeChar '"' c) :: runs [] rest

def quoted (text : List Char) : List Piece :=
  .text ['"'] :: (runs [] text ++ [.text ['"']])

def row (position : Position) (token : Token) : List Piece :=
  [.text (Nat.toDigits 10 position.line), .text [':'], .text (Nat.toDigits 10 position.column),
    .text ['\t'], .ofString token.cls.name, .text ['\t']] ++ (quoted token.text ++ [.text ['\n']])

/-- What is written for tokens, given where the token before them ended. -/
def rows (width : Char → Nat) (source : List Char) (position : Position) (offset : Nat) :
    List Token → List Piece
  | [] => []
  | token :: tokens =>
    let here := place width source position offset token
    row here token ++ rows width source (here.walk width token.text) token.stop tokens

theorem foldPieces_rows (width : Char → Nat) (source : List Char) (position : Position)
    (offset : Nat) (tokens : List Token) :
    foldPieces (fun stop token => row (place width source stop.1 stop.2 token) token)
        (fun stop token =>
          ((place width source stop.1 stop.2 token).walk width token.text, token.stop))
        (position, offset) tokens
      = rows width source position offset tokens := by
  induction tokens generalizing position offset with
  | nil => rfl
  | cons token tokens inductionHypothesis => rw [foldPieces, inductionHypothesis, rows]

section

variable {σ : Type} [Output σ]

theorem printRuns_writes (run text : List Char) :
    Writes (σ := σ) (printRuns run text) (runs run text) [] () := by
  induction text generalizing run with
  | nil => exact .print _
  | cons c rest inductionHypothesis =>
    unfold printRuns runs
    split
    · exact inductionHypothesis _
    · exact (Writes.print _).bind ((Writes.print _).bind (inductionHypothesis []))

theorem printRow_writes (position : Position) (token : Token) :
    Writes (σ := σ) (printRow position token) (row position token) [] () := by
  have place : Writes (σ := σ) (printPosition position) _ [] () :=
    (Writes.print _).bind ((Writes.print _).bind (.print _))
  have text : Writes (σ := σ) (printQuoted token.text) (quoted token.text) [] () :=
    (Writes.print _).bind ((printRuns_writes [] token.text).bind (.print _))
  exact place.bind ((Writes.print _).bind ((Writes.print _).bind ((Writes.print _).bind
    (text.bind (.print _)))))

theorem renderWith_writes {ι : Type} [TokenSource ι] {tokens : ι} {list : List Token}
    {steps : List Step} (yields : Yields tokens list steps) (width : Char → Nat)
    (source : List Char) :
    Writes (σ := σ) (renderWith width source tokens) (rows width source .start 0 list) steps () := by
  have each : ∀ stop token, Writes (σ := σ) (printToken width source stop token)
      (row (place width source stop.1 stop.2 token) token) []
      ((place width source stop.1 stop.2 token).walk width token.text, token.stop) :=
    fun _ token => (printRow_writes _ token).bind_pure _
  rw [← foldPieces_rows]
  exact (Writes.foldTokens each yields _).bind_pure ()

end

/-! ## Entries -/

/-- What a row tells of a token. -/
structure Entry where
  position : Position
  cls : TokenClass
  text : List Char
  deriving DecidableEq, Repr

namespace Entry

def ofToken (position : Position) (token : Token) : Entry :=
  ⟨position, token.cls, token.text⟩

/-- The row of an entry without its line break. -/
def line (entry : Entry) : List Char :=
  entry.position.format ++ '\t' :: (entry.cls.name.toList ++ '\t' :: Quoted.encode entry.text)

def ofLine? (line : List Char) : Option Entry :=
  match line.splitOn '\t' with
  | [position, name, quoted] => do
    return ⟨← Position.read? position, ← TokenClass.ofName? (String.ofList name),
      ← Quoted.decode? quoted⟩
  | _ => none

section Separators

variable {c : Char} (separates : c = '\t' ∨ c = '\n')
include separates

theorem not_mem_name (cls : TokenClass) : c ∉ cls.name.toList := by
  rcases separates with rfl | rfl <;> cases cls <;> decide

theorem not_mem_position (position : Position) : c ∉ position.format := by
  have other : ¬ c.isDigit ∧ c ≠ ':' := by rcases separates with rfl | rfl <;> decide
  exact position.not_mem_format other

end Separators

theorem newline_not_mem_line (entry : Entry) : '\n' ∉ entry.line := by
  simp [line, not_mem_position, not_mem_name, Quoted.not_mem_encode]

theorem count_tab_line (entry : Entry) : entry.line.count '\t' = 2 := by
  simp [line, List.count_eq_zero_of_not_mem, not_mem_position, not_mem_name,
    Quoted.not_mem_encode]

theorem ofLine?_line (entry : Entry) : ofLine? entry.line = some entry := by
  have parts : entry.line.splitOn '\t'
      = [entry.position.format, entry.cls.name.toList, Quoted.encode entry.text] := by
    rw [line, List.splitOn_append_cons_self_of_not_mem (not_mem_position (.inl rfl) _),
      List.splitOn_append_cons_self_of_not_mem (not_mem_name (.inl rfl) _),
      List.splitOn_eq_singleton (Quoted.not_mem_encode (.inl rfl) _)]
  simp [ofLine?, parts, Position.read?_format, TokenClass.ofName?_name, Quoted.decode?_encode]

example : ofLine? "3:7\tnone\t\"\\t\\\"\\u\x7ba0\x7d\"".toList
    = some ⟨⟨3, 7⟩, .plain, ['\t', '"', '\u00a0']⟩ := by
  decide

end Entry

/-! ## Tables -/

/-- The table of entries. -/
def ofEntries (entries : List Entry) : List Char :=
  (entries.map Entry.line).flatMap (· ++ ['\n'])

/-- The rows of a text without their line breaks, if each has one. -/
def rows? (text : List Char) : Option (List (List Char)) :=
  let pieces := text.splitOn '\n'
  if pieces.getLast? = some [] then some pieces.dropLast else none

def read? (text : List Char) : Option (List Entry) :=
  (rows? text).bind (·.mapM Entry.ofLine?)

theorem splitOn_lines (lines : List (List Char)) (whole : ∀ line ∈ lines, '\n' ∉ line) :
    (lines.flatMap (· ++ ['\n'])).splitOn '\n' = lines ++ [[]] := by
  induction lines with
  | nil => rfl
  | cons line lines inductionHypothesis =>
    rw [List.forall_mem_cons] at whole
    rw [List.flatMap_cons, List.append_assoc, List.singleton_append,
      List.splitOn_append_cons_self_of_not_mem whole.1, inductionHypothesis whole.2,
      List.cons_append]

theorem read?_ofEntries (entries : List Entry) : read? (ofEntries entries) = some entries := by
  have told : (entries.map Entry.line).mapM Entry.ofLine? = some entries := by
    induction entries with
    | nil => rfl
    | cons entry entries inductionHypothesis => simp [Entry.ofLine?_line, inductionHypothesis]
  have whole : ∀ line ∈ entries.map Entry.line, '\n' ∉ line :=
    List.forall_mem_map.mpr fun entry _ => entry.newline_not_mem_line
  have rows : rows? (ofEntries entries) = some (entries.map Entry.line) := by
    simp [rows?, ofEntries, splitOn_lines _ whole]
  rw [read?, rows, Option.bind_some, told]

theorem contents_runs (run text : List Char) : Piece.contents (runs run text)
    = run.reverse ++ text.flatMap (Quoted.encodeChar '"') := by
  induction text generalizing run with
  | nil => simp [runs]
  | cons c rest inductionHypothesis =>
    unfold runs
    split
    · rename_i single
      simp [inductionHypothesis, Quoted.encodeChar_of_length single]
    · simp [inductionHypothesis]

theorem contents_quoted (text : List Char) :
    Piece.contents (quoted text) = Quoted.encode text := by
  simp [quoted, Quoted.encode, Piece.contents_append, contents_runs]

theorem contents_row (position : Position) (token : Token) :
    Piece.contents (row position token) = (Entry.ofToken position token).line ++ ['\n'] := by
  simp [row, Piece.contents_append, contents_quoted, Entry.line, Entry.ofToken, Position.format]

theorem contents_rows (place : Token → Position) (tokens : List Token) :
    Piece.contents (tokens.flatMap fun token => row (place token) token)
      = ofEntries (tokens.map fun token => .ofToken (place token) token) := by
  induction tokens with
  | nil => rfl
  | cons token tokens inductionHypothesis =>
    rw [List.flatMap_cons, Piece.contents_append, contents_row, inductionHypothesis]
    rfl

/-- A token has a row with some position, and the rows behind it go on from the end of its text. -/
theorem rows_cons (width : Char → Nat) (source : List Char) (position : Position) (offset : Nat)
    (token : Token) (tokens : List Token) :
    ∃ here : Position, rows width source position offset (token :: tokens)
      = row here token ++ rows width source (here.walk width token.text) token.stop tokens :=
  ⟨_, rfl⟩

/-- Whatever the source is, the rows of tokens are those of entries with their classes and texts. -/
theorem exists_entries (width : Char → Nat) (source : List Char) (tokens : List Token) :
    ∀ position offset, ∃ entries : List Entry,
      Piece.contents (rows width source position offset tokens) = ofEntries entries ∧
        entries.map (fun entry => (entry.cls, entry.text))
          = tokens.map fun token => (token.cls, token.text) := by
  induction tokens with
  | nil => exact fun _ _ => ⟨[], rfl, rfl⟩
  | cons token tokens inductionHypothesis =>
    intro position offset
    obtain ⟨here, own⟩ := rows_cons width source position offset token tokens
    obtain ⟨entries, later, same⟩ := inductionHypothesis (here.walk width token.text) token.stop
    refine ⟨.ofToken here token :: entries, ?_, congrArg ((token.cls, token.text) :: ·) same⟩
    rw [own, Piece.contents_append, contents_row, later]
    rfl

/-! ## Positions -/

section Positions

variable (width : Char → Nat)

/-- The position of a token counts the text skipped since the token before it. -/
theorem rows_cons_of_slice {source skipped : List Char} {offset : Nat} {token : Token}
    (slice : Utf8.slice? source offset token.start = some skipped) (position : Position)
    (tokens : List Token) :
    rows width source position offset (token :: tokens)
      = row (position.walk width skipped) token
        ++ rows width source ((position.walk width skipped).walk width token.text) token.stop
          tokens := by
  simp [rows, place, slice]

/-- Whichever tokens of a tiling are left out, the rows of the others have the positions of their
starts. -/
theorem rows_of_tiles {offset : Nat} {rest : List Char} {tokens : List Token}
    (tiles : Tiles offset rest tokens) : ∀ (before skipped : List Char) (chosen : List Token),
      offset = Utf8.size before + Utf8.size skipped → chosen.Sublist tokens →
      rows width (before ++ (skipped ++ rest)) (Position.start.walk width before)
          (Utf8.size before) chosen
        = chosen.flatMap fun token =>
          row (.ofOffsetWith width (before ++ (skipped ++ rest)) token.start) token := by
  induction tiles with
  | done offset =>
    intro before skipped chosen _ sublist
    rw [List.sublist_nil.mp sublist]
    rfl
  | @next offset segment rest tokens cls nonempty later inductionHypothesis =>
    intro before skipped chosen start sublist
    cases sublist with
    | cons _ sublist =>
      -- A token left out: its text is skipped as well.
      have further := inductionHypothesis before (skipped ++ segment) chosen
        (by rw [Utf8.size_append]; omega) sublist
      rwa [List.append_assoc] at further
    | @cons_cons chosen _ _ sublist =>
      -- A token with a row: the walk has now come to its end.
      have stop : offset + Utf8.size segment = Utf8.size (before ++ (skipped ++ segment)) := by
        simp only [Utf8.size_append]
        omega
      have further := inductionHypothesis (before ++ (skipped ++ segment)) [] chosen
        (by rw [stop, Utf8.size_nil, Nat.add_zero]) sublist
      have source : before ++ (skipped ++ segment) ++ ([] ++ rest)
          = before ++ (skipped ++ (segment ++ rest)) := by
        simp
      have slice : Utf8.slice? (before ++ (skipped ++ (segment ++ rest))) (Utf8.size before)
          (Token.ofText cls segment offset).start = some skipped := by
        change Utf8.slice? _ _ offset = _
        rw [start]
        exact Utf8.slice?_size_append before skipped (segment ++ rest)
      have here : Position.ofOffsetWith width (before ++ (skipped ++ (segment ++ rest))) offset
          = (Position.start.walk width before).walk width skipped := by
        rw [start, ← Utf8.size_append, ← List.append_assoc, Position.ofOffsetWith_size_append,
          Position.walk_append]
      have there : Position.start.walk width (before ++ (skipped ++ segment))
          = ((Position.start.walk width before).walk width skipped).walk width segment := by
        simp only [Position.walk_append]
      rw [source, ← stop, there] at further
      rw [rows_cons_of_slice width slice, List.flatMap_cons]
      exact congrArg₂ (· ++ ·) (by rw [← here]; rfl) further

end Positions

/-- Each row of tokens of a source, whichever are left out, has the position of its token: the
program that carries the position along is the one that computes each from the start. -/
theorem rows_positions (table : RuleTable) (source : List Char) {tokens : List Token}
    (chosen : tokens.Sublist (table.tokens source)) :
    (∀ (σ : Type) [Output σ] (width : Char → Nat),
      (renderWith width source tokens : Writing σ Unit)
        = Writing.eachToken
          (fun token => printRow (.ofOffsetWith width source token.start) token) tokens) ∧
    ∃ device text, (render source tokens).run (Device.empty none) = (.ok (), device) ∧
      device.text? = some text ∧
      read? text = some (tokens.map fun token =>
        .ofToken (.ofOffset source token.start) token) := by
  have placed (width : Char → Nat) : rows width source .start 0 tokens
      = tokens.flatMap fun token => row (.ofOffsetWith width source token.start) token :=
    rows_of_tiles width (table.stepsFrom_tiles 0 source) [] [] tokens rfl chosen
  constructor
  · intro σ _ width
    have carried := renderWith_writes (σ := σ) (.ofList tokens) width source
    rw [placed] at carried
    exact carried.unique (.eachToken (fun token => printRow_writes _ token) (.ofList tokens))
  · obtain ⟨device, accepted, text⟩ :=
      (renderWith_writes (.ofList tokens) displayWidth source).text
    refine ⟨device, _, accepted, text, ?_⟩
    rw [placed, contents_rows, read?_ofEntries]
    rfl

/-- Words of small letters. -/
def lettersTable : RuleTable :=
  ⟨[⟨"letters", .atStart (.run (.range 'a' 'z')) 0, .whole .identifier, none⟩]⟩

/-- The first token, which is wide, and a token of the second line have no rows. -/
theorem rows_positions_letters :
    [Token.ofText .plain ['\n'] 3, .ofText .plain [' '] 6, .ofText .identifier ['c'] 7].Sublist
        (lettersTable.tokens "日\nab c".toList) ∧
      (renderWith (fun _ => 3) "日\nab c".toList
          [Token.ofText .plain ['\n'] 3, .ofText .plain [' '] 6, .ofText .identifier ['c'] 7]
        : Writing Device Unit)
        = (do
          printRow ⟨1, 4⟩ (.ofText .plain ['\n'] 3)
          printRow ⟨2, 7⟩ (.ofText .plain [' '] 6)
          printRow ⟨2, 10⟩ (.ofText .identifier ['c'] 7)) ∧
      ∃ device text,
        (render "日\nab c".toList
            [Token.ofText .plain ['\n'] 3, .ofText .plain [' '] 6, .ofText .identifier ['c'] 7]).run
            (Device.empty none)
          = (.ok (), device) ∧
        device.text? = some text ∧
        read? text = some [⟨⟨1, 3⟩, .plain, ['\n']⟩, ⟨⟨2, 3⟩, .plain, [' ']⟩,
          ⟨⟨2, 4⟩, .identifier, ['c']⟩] := by
  have chosen : [Token.ofText .plain ['\n'] 3, .ofText .plain [' '] 6,
      .ofText .identifier ['c'] 7].Sublist (lettersTable.tokens "日\nab c".toList) := by
    decide +kernel
  obtain ⟨same, device, text, accepted, written, entries⟩ := rows_positions _ _ chosen
  refine ⟨chosen, (same Device _).trans ?_, device, text, accepted, written, entries.trans ?_⟩
  · have rowOf (position : Position) (token : Token) := printRow_writes (σ := Device) position token
    exact (Writes.eachToken (fun token => rowOf _ token) (.ofList _)).unique
      ((rowOf _ _).bind ((rowOf _ _).bind (rowOf _ _)))
  · decide +kernel

/-- A table tells the class and the text of every token, whatever the source and the tokens are:
each has one row of three fields. -/
theorem render_lossless (source : List Char) :
    (∀ tokens : List Token, ∃ device text, ∃ rows : List (List Char), ∃ entries : List Entry,
      (render source tokens).run (Device.empty none) = (.ok (), device) ∧
      device.text? = some text ∧
      text = rows.flatMap (· ++ ['\n']) ∧
      rows.length = tokens.length ∧
      (∀ row ∈ rows, '\n' ∉ row ∧ row.count '\t' = 2) ∧
      rows.map Entry.ofLine? = entries.map some ∧
      read? text = some entries ∧
      entries.map (fun entry => (entry.cls, entry.text))
        = tokens.map fun token => (token.cls, token.text)) ∧
    ∀ table : RuleTable, ∃ device text, ∃ entries : List Entry,
      (render source (table.tokens source)).run (Device.empty none) = (.ok (), device) ∧
      device.text? = some text ∧
      read? text = some entries ∧
      entries.flatMap Entry.text = source := by
  have every (tokens : List Token) : ∃ device, ∃ entries : List Entry,
      (render source tokens).run (Device.empty none) = (.ok (), device) ∧
        device.text? = some (ofEntries entries) ∧
        entries.map (fun entry => (entry.cls, entry.text))
          = tokens.map fun token => (token.cls, token.text) := by
    obtain ⟨entries, rows, same⟩ := exists_entries displayWidth source tokens .start 0
    obtain ⟨device, accepted, text⟩ :=
      (renderWith_writes (.ofList tokens) displayWidth source).text
    exact ⟨device, entries, accepted, text.trans (congrArg some rows), same⟩
  constructor
  · intro tokens
    obtain ⟨device, entries, accepted, text, same⟩ := every tokens
    have count := congrArg List.length same
    refine ⟨device, _, entries.map Entry.line, entries, accepted, text, rfl, ?_, ?_, ?_,
      read?_ofEntries entries, same⟩
    · simpa using count
    · exact List.forall_mem_map.mpr fun entry _ =>
        ⟨entry.newline_not_mem_line, entry.count_tab_line⟩
    · simp [Entry.ofLine?_line]
  · intro table
    obtain ⟨device, entries, accepted, text, same⟩ := every (table.tokens source)
    refine ⟨device, _, entries, accepted, text, read?_ofEntries entries, ?_⟩
    have joined : (table.tokens source).flatMap Token.text = source :=
      (table.stepsFrom_tiles 0 source).joined
    have texts := congrArg (List.flatMap Prod.snd) same
    rw [List.flatMap_map, List.flatMap_map] at texts
    exact texts.trans joined

end Highlighter.Table
