import Highlighter.Proofs.Language.Rules
import Highlighter.Proofs.Output.Html

/-!
# The text that a fragment shows

A reader of HTML takes a line feed directly after the tag that opens a `pre` element
for a part of the markup.  So a source that begins with a line feed is shown without
it, and every other source is shown as it is.
-/

set_option autoImplicit false

namespace Highlighter

namespace Markup

/-- Only a line feed that stands for itself makes markup begin with one. -/
theorem exists_bare_of_head? {items : List Markup}
    (begins : (items.flatMap source).head? = some '\n') :
    ∃ plain later, items = bare '\n' plain :: later := by
  cases items with
  | nil => cases begins
  | cons item later =>
    cases item with
    | opening cls => cases begins
    | closing => cases begins
    | entity which => cases begins
    | bare c plain =>
      cases begins
      exact ⟨plain, later, rfl⟩

end Markup

namespace Html

open Markup (Closed)

def withoutFirstBreak (text : List Char) : List Char :=
  if text.head? = some '\n' then text.tail else text

theorem withoutFirstBreak_eq_self_iff {text : List Char} :
    withoutFirstBreak text = text ↔ text.head? ≠ some '\n' := by
  unfold withoutFirstBreak
  cases text with
  | nil => simp
  | cons c rest => by_cases newline : c = '\n' <;> simp [newline]

def openingTag : List Char := "<pre class=\"cm-s-default\">".toList

def closingTag : List Char := "</pre>\n".toList

theorem contents_pieces (tokens : List Token) : Piece.contents (pieces tokens)
    = openingTag ++ Piece.contents (tokens.flatMap ofToken) ++ closingTag := by
  rw [pieces, Piece.contents_cons, Piece.contents_append, Piece.contents_singleton,
    ← List.append_assoc]
  rfl

/-- The text that a reader shows of a fragment that is one element with markup in it.  The text has
no carriage returns and no null characters, which a reader would replace. -/
def visible? (fragment : List Char) : Option (List Char) := do
  let opened ← fragment.dropPrefix? openingTag
  let body ← opened.dropSuffix? closingTag
  let items ← Markup.read? (withoutFirstBreak body)
  return (Markup.shown none items).map Prod.fst

/-- A fragment shows what its markup shows, but for a line feed that its markup begins with. -/
theorem visible?_markup {items : List Markup} {cells : List (Char × Option String)}
    (closed : Closed items cells) :
    visible? (openingTag ++ items.flatMap Markup.source ++ closingTag)
      = some (if (items.flatMap Markup.source).head? = some '\n' then (cells.map Prod.fst).tail
          else cells.map Prod.fst) := by
  have opened : (openingTag ++ items.flatMap Markup.source ++ closingTag).dropPrefix? openingTag
      = some (items.flatMap Markup.source ++ closingTag) :=
    List.dropPrefix?_eq_some_iff.mpr ⟨openingTag, List.append_assoc _ _ _, beq_self_eq_true _⟩
  have closes : (items.flatMap Markup.source ++ closingTag).dropSuffix? closingTag
      = some (items.flatMap Markup.source) :=
    List.dropSuffix?_eq_some_iff.mpr ⟨closingTag, rfl, beq_self_eq_true _⟩
  have whole : Markup.shown none items = cells := by
    simpa [Markup.shown] using closed.shown []
  simp only [visible?, opened, closes, Option.bind_eq_bind, Option.bind_some, withoutFirstBreak]
  by_cases begins : (items.flatMap Markup.source).head? = some '\n'
  · obtain ⟨plain, later, rfl⟩ := Markup.exists_bare_of_head? begins
    have remains : ((Markup.bare '\n' plain :: later).flatMap Markup.source).tail
        = later.flatMap Markup.source := rfl
    rw [if_pos begins, if_pos begins, remains, Markup.read?_eq_some_iff.mpr rfl, ← whole]
    rfl
  · rw [if_neg begins, if_neg begins, Markup.read?_eq_some_iff.mpr rfl, ← whole]
    rfl

theorem exists_escapeChar (c : Char) :
    ∃ first others, escapeChar c = first :: others ∧ (first = '\n' ↔ c = '\n') := by
  rw [← Markup.source_ofChar]
  rcases Markup.ofChar_cases c with ⟨plain, same⟩ | ⟨which, same, rfl⟩
  · exact ⟨c, [], by rw [same, Markup.source], Iff.rfl⟩
  · refine ⟨'&', which.name ++ [';'], by rw [same, Markup.source], ?_⟩
    cases which <;> decide

/-- Markup begins with a line feed if the text of the tokens does and no tag comes before it. -/
theorem head?_ofTokens {offset : Nat} {text : List Char} {tokens : List Token}
    (tiles : Tiles offset text tokens) :
    (Piece.contents (tokens.flatMap ofToken)).head? = some '\n' ↔
      text.head? = some '\n' ∧ ∀ token ∈ tokens.head?, token.cls.styleClass? = none := by
  cases tiles with
  | done => simp
  | @next _ segment rest later cls nonempty _ =>
    obtain ⟨c, following, rfl⟩ := List.exists_cons_of_ne_nil nonempty
    cases named : cls.styleClass? with
    | some name => simp [ofToken, Token.ofText, named]
    | none =>
      obtain ⟨first, others, escaped, newline⟩ := exists_escapeChar c
      simp [ofToken, Token.ofText, named, escape_eq, escaped, newline]

end Html

namespace Setanta

theorem tokens_newline (rest : List Char) : table.tokens ('\n' :: rest)
    = .ofText .plain ['\n'] 0 :: (table.stepsFrom 1 rest).flatMap (·.tokens) := by
  rw [RuleTable.tokens, RuleTable.steps, RuleTable.stepsFrom_cons,
    RuleTable.step_newline table_staysInLine, List.flatMap_cons]
  rfl

theorem visible?_contents (source : List Char) :
    Html.visible? (Piece.contents (Html.pieces (table.tokens source)))
      = some (Html.withoutFirstBreak source) := by
  have tiles : Tiles 0 source (table.tokens source) := table.stepsFrom_tiles 0 source
  obtain ⟨items, written, closed⟩ := Html.ofTokens_markup (table.tokens source)
  have shown : ((table.tokens source).flatMap fun token =>
      token.text.map (·, token.cls.styleClass?)).map Prod.fst = source := by
    simpa [List.map_flatMap, Function.comp_def] using tiles.joined
  -- A line feed at the start is a plain token, so no tag stands before it.
  have begins : (items.flatMap Markup.source).head? = some '\n' ↔ source.head? = some '\n' := by
    rw [← written, Html.head?_ofTokens tiles]
    refine and_iff_left_of_imp fun newline => ?_
    obtain ⟨rest, rfl⟩ := List.head?_eq_some_iff.mp newline
    rw [tokens_newline]
    rintro _ ⟨⟩
    rfl
  rw [Html.contents_pieces, written, Html.visible?_markup closed, shown]
  simp only [begins, Html.withoutFirstBreak]

/-- What a reader shows of the fragment written for a source is the source, but for a line feed that
the source begins with. -/
theorem visible?_render (source : List Char) : ∃ table, RuleTable.setanta = .ok table ∧
    ∃ device fragment,
      (Html.render (table.tokens source)).run (Device.empty none) = (.ok (), device) ∧
      device.text? = some fragment ∧
      Html.visible? fragment = some (Html.withoutFirstBreak source) ∧
      (Html.visible? fragment = some source ↔ source.head? ≠ some '\n') := by
  obtain ⟨device, accepted, text⟩ := (Html.render_writes (.ofList (table.tokens source))).text
  have visible := visible?_contents source
  refine ⟨table, setanta_eq, device, _, accepted, text, visible, ?_⟩
  rw [visible, Option.some.injEq, Html.withoutFirstBreak_eq_self_iff]

/-- The fragment of a line feed shows nothing. -/
theorem newline_not_shown : ∃ table, RuleTable.setanta = .ok table ∧
    ∃ device fragment,
      (Html.render (table.tokens ['\n'])).run (Device.empty none) = (.ok (), device) ∧
      device.text? = some fragment ∧
      fragment = "<pre class=\"cm-s-default\">\n</pre>\n".toList ∧
      Html.visible? fragment = some [] ∧ Html.visible? fragment ≠ some ['\n'] := by
  obtain ⟨device, accepted, text⟩ := (Html.render_writes (.ofList (table.tokens ['\n']))).text
  have visible := visible?_contents ['\n']
  refine ⟨table, setanta_eq, device, _, accepted, text, ?_, visible, ?_⟩
  · rw [tokens_newline, RuleTable.stepsFrom_nil]
    decide
  · rw [visible]
    decide

end Setanta

end Highlighter
