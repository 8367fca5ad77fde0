import Highlighter.Output.Ansi
import Highlighter.Proofs.Output.Device
import Highlighter.Proofs.Output.Terminal

/-!
# Styles on a terminal

Each token is shown in the style of its class, and after it the terminal draws
as it did before, so no style reaches the next token.  The colours come before
the other styles: where colours are not wanted each of them resets the terminal,
which then has nothing to lose.
-/

set_option autoImplicit false

namespace Highlighter

/-- A style as it is drawn, with its colours or without. -/
def Style.drawn (colors : Bool) (style : Style) : Style :=
  if colors then style else { style with foreground := .default, background := .default }

namespace Ansi

/-! ## What is written -/

/-- A control sequence, part by part. -/
def sequence (parameters : List (List Char)) : List Piece :=
  .text ['\x1b', '['] :: (parameters.map .text ++ [.text ['m']])

/-- What is written for a sequence that is wanted only under a condition. -/
def optional (condition : Bool) (parameters : List (List Char)) : List Piece :=
  if condition then sequence parameters else []

def colorOn (colors : Bool) (use : List Char) (color : Color) : List Piece :=
  optional (color != .default) (colorParameters colors use color)

def styleOn (colors : Bool) (style : Style) : List Piece :=
  colorOn colors ['3', '8'] style.foreground ++ (colorOn colors ['4', '8'] style.background
    ++ (optional style.bold [['1']] ++ (optional style.italic [['3']]
      ++ optional style.underline [['4']])))

def reset : List Piece :=
  sequence [['0']] ++ [.text ['\x1b', '[', '0', 'm']]

def ofToken (theme : Theme) (colors : Bool) (token : Token) : List Piece :=
  let style := theme.style token.cls
  if style.isDefault then [.text token.text]
  else styleOn colors style ++ (.text token.text :: reset)

def pieces (theme : Theme) (colors : Bool) (tokens : List Token) : List Piece :=
  tokens.flatMap (ofToken theme colors) ++ [.flush]

section

variable {σ : Type} [Output σ]

theorem printSequence_writes (parameters : List (List Char)) :
    Writes (σ := σ) (printSequence parameters) (sequence parameters) [] () := by
  have writes := Writes.printAll (σ := σ) (['\x1b', '['] :: (parameters ++ [['m']]))
  rwa [List.map_cons, List.map_append] at writes

theorem when_writes (condition : Bool) (parameters : List (List Char)) :
    Writes (σ := σ) (Writing.when condition (printSequence parameters))
      (optional condition parameters) [] () :=
  .when (printSequence_writes parameters) condition

theorem printStyle_writes (colors : Bool) (style : Style) :
    Writes (σ := σ) (printStyle colors style) (styleOn colors style) [] () :=
  (when_writes _ _).bind ((when_writes _ _).bind ((when_writes _ _).bind
    ((when_writes _ _).bind (when_writes _ _))))

theorem printToken_writes (theme : Theme) (colors : Bool) (token : Token) :
    Writes (σ := σ) (printToken theme colors token) (ofToken theme colors token) [] () := by
  unfold printToken ofToken
  dsimp only
  split
  · exact .print _
  · exact (printStyle_writes colors _).bind
      ((Writes.print _).bind ((printSequence_writes _).bind (.print _)))

theorem render_writes {ι : Type} [TokenSource ι] {source : ι} {tokens : List Token}
    {steps : List Step} (yields : Yields source tokens steps) (theme : Theme) (colors : Bool) :
    Writes (σ := σ) (render theme colors source) (pieces theme colors tokens) steps () :=
  (Writes.eachToken (printToken_writes theme colors) yields).bind_silent .flush

end

open Terminal (Shows isFinal numbers select)

/-! ## One sequence -/

theorem contents_sequence (parameters : List (List Char)) :
    Piece.contents (sequence parameters) = ['\x1b', '['] ++ parameters.flatten ++ ['m'] := by
  have inside : Piece.contents (parameters.map .text) = parameters.flatten := by
    rw [Piece.contents, List.flatMap_map, List.flatten_eq_flatMap]
    rfl
  simp [sequence, Piece.contents_append, inside]

theorem sequence_shows (style : Style) (parameters : List (List Char))
    (inside : parameters.flatten.any isFinal = false) :
    Shows style (Piece.contents (sequence parameters)) []
      (select (numbers 0 parameters.flatten) style) := by
  rw [contents_sequence]
  exact .sequence style inside

theorem reset_shows (style : Style) : Shows style (Piece.contents reset) [] .default := by
  have first := sequence_shows style [['0']] (by decide)
  have second : Shows .default ['\x1b', '[', '0', 'm'] [] .default :=
    @Shows.sequence ['0'] .default (by decide)
  rw [reset, Piece.contents_append]
  exact first.append second

theorem optional_shows (condition : Bool) (style : Style) (parameters : List (List Char))
    (inside : parameters.flatten.any isFinal = false) :
    Shows style (Piece.contents (optional condition parameters)) []
      (if condition then select (numbers 0 parameters.flatten) style else style) := by
  cases condition with
  | false => exact .nil style
  | true =>
    rw [optional, if_pos rfl, if_pos rfl]
    exact sequence_shows style parameters inside

/-! ## Colours -/

theorem numbers_colorCode {color : Color} (chosen : color ≠ .default) :
    numbers 0 (colorCode color) = [5, Terminal.palette.idxOf color] := by
  cases color with
  | default => exact absurd rfl chosen
  | normal hue => cases hue <;> decide
  | bright hue => cases hue <;> decide

theorem palette_idxOf {color : Color} (chosen : color ≠ .default) :
    Terminal.palette[Terminal.palette.idxOf color]? = some color := by
  cases color with
  | default => exact absurd rfl chosen
  | normal hue => cases hue <;> decide
  | bright hue => cases hue <;> decide

theorem colorCode_inside (color : Color) : (colorCode color).any isFinal = false := by
  cases color with
  | default => decide
  | normal hue => cases hue <;> decide
  | bright hue => cases hue <;> decide

/-- The style after a colour has been chosen for a use; without colours that is a reset. -/
def colored (colors : Bool) (use : Nat) (color : Color) (style : Style) : Style :=
  if color = .default then style
  else if colors then select [use, 5, Terminal.palette.idxOf color] style
  else .default

theorem color_shows (colors : Bool) (style : Style) (color : Color) (use : List Char)
    (number : Nat) (read : numbers 0 use = [number]) (inside : use.any isFinal = false) :
    Shows style (Piece.contents (colorOn colors use color)) []
      (colored colors number color style) := by
  unfold colored
  by_cases chosen : color = .default
  · subst chosen
    exact .nil style
  · rw [colorOn, optional, if_pos (by simpa using chosen), if_neg chosen]
    cases colors with
    | false => exact sequence_shows style [] (by decide)
    | true =>
      have joined : (colorParameters true use color).flatten = use ++ ';' :: colorCode color := by
        simp [colorParameters]
      have all : (use ++ ';' :: colorCode color).any isFinal = false := by
        have between : isFinal ';' = false := rfl
        rw [List.any_append, List.any_cons, inside, between, colorCode_inside]
        rfl
      have shown := sequence_shows style (colorParameters true use color) (by rw [joined, all])
      rwa [joined, Terminal.numbers_append, read, numbers_colorCode chosen] at shown

/-- Both colours, chosen in the first state.  If the second is a reset it loses nothing, for then
the first was one too. -/
theorem colored_colored (colors : Bool) (foreground background : Color) :
    colored colors 48 background (colored colors 38 foreground .default)
      = Style.drawn colors ⟨foreground, background, false, false, false⟩ := by
  unfold colored
  cases colors with
  | false => simp [Style.drawn, Style.default]
  | true =>
    by_cases first : foreground = .default
    · by_cases second : background = .default
      · simp [first, second, Style.drawn, Style.default]
      · simp [first, second, Style.drawn, Style.default, select, palette_idxOf]
    · by_cases second : background = .default
      · simp [first, second, Style.drawn, Style.default, select, palette_idxOf]
      · simp [first, second, Style.drawn, Style.default, select, palette_idxOf]

/-! ## Styles and tokens -/

/-- The sequences of a style give it to a terminal in its first state. -/
theorem styleOn_shows (colors : Bool) (style : Style) :
    Shows .default (Piece.contents (styleOn colors style)) [] (style.drawn colors) := by
  obtain ⟨foreground, background, bold, italic, underline⟩ := style
  have first := color_shows colors .default foreground ['3', '8'] 38 rfl (by decide)
  have second := first.append (color_shows colors _ background ['4', '8'] 48 rfl (by decide))
  rw [colored_colored] at second
  have third := second.append (optional_shows bold _ [['1']] (by decide))
  have fourth := third.append (optional_shows italic _ [['3']] (by decide))
  have fifth := fourth.append (optional_shows underline _ [['4']] (by decide))
  unfold styleOn
  simp only [Piece.contents_append, ← List.append_assoc]
  -- The sequences are those of `styleOn` as soon as its conditions are decided.
  cases colors <;> cases bold <;> cases italic <;> cases underline <;> exact fifth

/-- A token is shown in the style of its class, and its style ends with it. -/
theorem ofToken_shows (theme : Theme) (colors : Bool) {token : Token}
    (bare : '\x1b' ∉ token.text) :
    Shows .default (Piece.contents (ofToken theme colors token))
      (token.text.map fun c => ⟨c, (theme.style token.cls).drawn colors⟩) .default := by
  unfold ofToken
  by_cases plain : theme.style token.cls = .default
  · have shown := Shows.bare .default bare
    have drawn : Style.default.drawn colors = .default := by cases colors <;> rfl
    simpa [plain, Style.isDefault, Piece.contents_singleton, Piece.content, drawn] using shown
  · have styled := styleOn_shows colors (theme.style token.cls)
    have shown := styled.append (Shows.bare _ bare)
    have ended := shown.append (reset_shows _)
    have written : (theme.style token.cls).isDefault = false := by
      simpa [Style.isDefault] using plain
    simpa [written, Piece.contents, Piece.content] using ended

theorem pieces_shows (theme : Theme) (colors : Bool) (tokens : List Token)
    (bare : ∀ token ∈ tokens, '\x1b' ∉ token.text) :
    Shows .default (Piece.contents (pieces theme colors tokens))
      (tokens.flatMap fun token =>
        token.text.map fun c => ⟨c, (theme.style token.cls).drawn colors⟩) .default := by
  induction tokens with
  | nil => exact .nil .default
  | cons token tokens inductionHypothesis =>
    obtain ⟨own, others⟩ := List.forall_mem_cons.mp bare
    have shown := (ofToken_shows theme colors own).append (inductionHypothesis others)
    have written : pieces theme colors (token :: tokens)
        = ofToken theme colors token ++ pieces theme colors tokens := by
      simp [pieces]
    rw [written, Piece.contents_append, List.flatMap_cons]
    exact shown

/-- On a terminal in its first state, what is written for tokens shows each of their characters in
the style of its class and leaves the terminal in its first state.  Where colours are not wanted
the same holds of the styles without their colours. -/
theorem render_shown (theme : Theme) (colors : Bool) (tokens : List Token)
    (bare : ∀ token ∈ tokens, '\x1b' ∉ token.text) :
    ∃ device, (render theme colors tokens).run (Device.empty none) = (.ok (), device) ∧
      Terminal.shown? device.accepted.toList
        = some (tokens.flatMap fun token =>
            token.text.map fun c => ⟨c, (theme.style token.cls).drawn colors⟩, .initial) := by
  obtain ⟨device, accepted, text⟩ := (render_writes (.ofList tokens) theme colors).text
  have read : Terminal.shown? device.accepted.toList
      = device.text?.map Terminal.initial.read := by
    rw [Device.text?, Option.map_map]
    rfl
  refine ⟨device, accepted, ?_⟩
  rw [read, text]
  exact congrArg some (pieces_shows theme colors tokens bare)

/-- A keyword in all styles, and a name without any. -/
theorem render_shown_keyword :
    (∀ token ∈ [Token.ofText .keyword ['m', 'á'] 0, .ofText .plain [' '] 3,
        .ofText .identifier ['x'] 4], '\x1b' ∉ token.text) ∧
      ∃ device,
        (render (Theme.default.set .keyword ⟨.normal .red, .bright .blue, true, true, true⟩) true
            [Token.ofText .keyword ['m', 'á'] 0, .ofText .plain [' '] 3,
              .ofText .identifier ['x'] 4]).run (Device.empty none)
          = (.ok (), device) ∧
        Terminal.shown? device.accepted.toList
          = some ([⟨'m', ⟨.normal .red, .bright .blue, true, true, true⟩⟩,
              ⟨'á', ⟨.normal .red, .bright .blue, true, true, true⟩⟩,
              ⟨' ', .default⟩, ⟨'x', .default⟩], .initial) := by
  have bare : ∀ token ∈ [Token.ofText .keyword ['m', 'á'] 0, .ofText .plain [' '] 3,
      .ofText .identifier ['x'] 4], '\x1b' ∉ token.text := by
    decide
  exact ⟨bare, render_shown _ true _ bare⟩

end Ansi

end Highlighter
