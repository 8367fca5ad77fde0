import Highlighter.Output.Html
import Highlighter.Proofs.Output.Device
import Highlighter.Proofs.Output.Markup

/-!
# Tokens as markup

What is written for tokens is the markup of their texts, each between the tags
of its style class if it has one.  A reader of markup finds every character
again, under the style class of its token.
-/

set_option autoImplicit false

namespace Highlighter

namespace Html

/-! ## What is written -/

theorem escapeChar_of_not_isSpecial {c : Char} (bare : isSpecial c = false) :
    escapeChar c = [c] := by
  simp only [isSpecial, Bool.or_eq_false_iff] at bare
  simp [escapeChar, bare]

/-- A text that is left as it is would have been so character by character. -/
theorem escape_eq (text : List Char) : escape text = text.flatMap escapeChar := by
  unfold escape
  split
  · rfl
  · rename_i none
    rw [Bool.not_eq_true, List.any_eq_false] at none
    have bare : ∀ c ∈ text, escapeChar c = [c] := fun c member =>
      escapeChar_of_not_isSpecial (Bool.eq_false_iff.mpr (none c member))
    rw [List.flatMap_congr bare, List.flatMap_singleton']

def ofToken (token : Token) : List Piece :=
  match token.cls.styleClass? with
  | some cls =>
    [.ofString "<span class=\"cm-", .ofString cls, .ofString "\">", .text (escape token.text),
      .ofString "</span>"]
  | none => [.text (escape token.text)]

def pieces (tokens : List Token) : List Piece :=
  .ofString "<pre class=\"cm-s-default\">" :: (tokens.flatMap ofToken ++ [.ofString "</pre>\n"])

section

variable {σ : Type} [Output σ]

theorem printToken_writes (token : Token) :
    Writes (σ := σ) (printToken token) (ofToken token) [] () := by
  unfold printToken ofToken
  cases token.cls.styleClass? with
  | none => exact .print _
  | some cls =>
    exact (Writes.print _).bind ((Writes.print _).bind ((Writes.print _).bind
      ((Writes.print _).bind (.print _))))

theorem render_writes {ι : Type} [TokenSource ι] {source : ι} {tokens : List Token}
    {steps : List Step} (yields : Yields source tokens steps) :
    Writes (σ := σ) (render source) (pieces tokens) steps () := by
  have body := Writes.eachToken (σ := σ) printToken_writes yields
  exact (Writes.print _).bind (body.bind_silent (.print _))

end

end Html

namespace Markup

/-- The characters that markup shows, each with the style class whose tag is open there, given the
class whose tag is open at the start. -/
def shown (label : Option String) : List Markup → List (Char × Option String)
  | [] => []
  | opening cls :: rest => shown (some (String.ofList cls.text)) rest
  | closing :: rest => shown none rest
  | entity which :: rest => (which.character, label) :: shown label rest
  | bare c _ :: rest => (c, label) :: shown label rest

def tags (items : List Markup) : List Markup :=
  items.filter (·.kind? = some .tag)

/-- Markup whose tags open and close in turn, with what it shows. -/
structure Closed (items : List Markup) (cells : List (Char × Option String)) : Prop where
  tags : ∃ names : List Name, tags items = names.flatMap fun name => [opening name, closing]
  shown : ∀ more, shown none (items ++ more) = cells ++ shown none more

namespace Closed

variable {items others : List Markup} {cells more : List (Char × Option String)}

theorem nil : Closed [] [] := ⟨⟨[], rfl⟩, fun _ => rfl⟩

theorem append (first : Closed items cells) (second : Closed others more) :
    Closed (items ++ others) (cells ++ more) := by
  obtain ⟨names, firstTags⟩ := first.tags
  obtain ⟨further, secondTags⟩ := second.tags
  constructor
  · refine ⟨names ++ further, ?_⟩
    rw [List.flatMap_append, ← firstTags, ← secondTags]
    exact List.filter_append _ _
  · intro rest
    rw [List.append_assoc, first.shown, second.shown, List.append_assoc]

end Closed

/-! ## Escaped text -/

def ofChar (c : Char) : Markup :=
  if plain : c ∉ special then bare c plain
  else if c = '&' then entity .ampersand
  else if c = '<' then entity .less
  else if c = '>' then entity .greater
  else entity .quote

theorem mem_special {c : Char} : c ∈ special ↔ c = '&' ∨ c = '<' ∨ c = '>' ∨ c = '"' := by
  simp [special]

theorem source_ofChar (c : Char) : (ofChar c).source = Html.escapeChar c := by
  by_cases meaning : c ∈ special
  · rcases mem_special.mp meaning with rfl | rfl | rfl | rfl <;> decide
  · have others := meaning
    rw [mem_special, not_or, not_or, not_or] at others
    simp [ofChar, meaning, source, Html.escapeChar, others]

theorem ofChar_cases (c : Char) :
    (∃ plain, ofChar c = bare c plain) ∨
      ∃ which, ofChar c = entity which ∧ which.character = c := by
  by_cases meaning : c ∈ special
  · refine .inr ?_
    rcases mem_special.mp meaning with rfl | rfl | rfl | rfl
    · exact ⟨.ampersand, rfl, rfl⟩
    · exact ⟨.less, rfl, rfl⟩
    · exact ⟨.greater, rfl, rfl⟩
    · exact ⟨.quote, rfl, rfl⟩
  · exact .inl ⟨meaning, dif_pos meaning⟩

theorem tags_ofChar (text : List Char) : tags (text.map ofChar) = [] := by
  apply List.filter_eq_nil_iff.mpr
  intro item member
  obtain ⟨c, -, rfl⟩ := List.mem_map.mp member
  rcases ofChar_cases c with ⟨plain, same⟩ | ⟨which, same, -⟩ <;> simp [same, kind?]

theorem shown_ofChar (text : List Char) (label : Option String) (more : List Markup) :
    shown label (text.map ofChar ++ more) = text.map (·, label) ++ shown label more := by
  induction text with
  | nil => rfl
  | cons c text inductionHypothesis =>
    rcases ofChar_cases c with ⟨plain, same⟩ | ⟨which, same, character⟩
    · simp [same, shown, inductionHypothesis]
    · simp [same, shown, character, inductionHypothesis]

theorem source_text (text : List Char) : (text.map ofChar).flatMap source = Html.escape text := by
  simp [Html.escape_eq, List.flatMap_map, source_ofChar]

end Markup

namespace Html

open Markup (Closed)

theorem styleClass?_bare {cls : TokenClass} {name : String} (named : cls.styleClass? = some name) :
    name.toList.all (· ∉ Markup.special) := by
  cases cls <;> cases named <;> decide

/-- What is written for a token is markup that shows its text under its style class. -/
theorem ofToken_markup (token : Token) : ∃ items : List Markup,
    Piece.contents (ofToken token) = items.flatMap Markup.source ∧
      Closed items (token.text.map (·, token.cls.styleClass?)) := by
  have untagged := Markup.tags_ofChar token.text
  cases named : token.cls.styleClass? with
  | none =>
    refine ⟨token.text.map Markup.ofChar, ?_, ⟨⟨[], untagged⟩, ?_⟩⟩
    · rw [Markup.source_text]
      simp [ofToken, named]
    · exact Markup.shown_ofChar token.text none
  | some name =>
    let cls : Markup.Name := ⟨name.toList, styleClass?_bare named⟩
    refine ⟨.opening cls :: (token.text.map Markup.ofChar ++ [.closing]), ?_, ⟨⟨[cls], ?_⟩, ?_⟩⟩
    · have opens : Markup.source (.opening cls)
          = "<span class=\"cm-".toList ++ (name.toList ++ "\">".toList) := by
        have front : "<span class=\"cm-".toList = '<' :: Markup.openingFront := by decide
        have back : "\">".toList = ['"', '>'] := by decide
        rw [front, back]
        simp [Markup.source, cls]
      have closes : Markup.source .closing = "</span>".toList := by decide
      rw [List.flatMap_cons, List.flatMap_append, Markup.source_text, opens, List.flatMap_singleton,
        closes]
      simp only [ofToken, named, Piece.contents_cons, Piece.contents_nil, Piece.content_ofString,
        Piece.content_text, List.append_assoc, List.append_nil]
    · unfold Markup.tags at untagged ⊢
      rw [List.filter_cons_of_pos rfl, List.filter_append, untagged]
      rfl
    · intro more
      have label : String.ofList cls.text = name := String.ofList_toList
      rw [List.cons_append, List.append_assoc, Markup.shown, label, Markup.shown_ofChar]
      rfl

theorem ofTokens_markup (tokens : List Token) : ∃ items : List Markup,
    Piece.contents (tokens.flatMap ofToken) = items.flatMap Markup.source ∧
      Closed items (tokens.flatMap fun token => token.text.map (·, token.cls.styleClass?)) := by
  induction tokens with
  | nil => exact ⟨[], rfl, .nil⟩
  | cons token tokens inductionHypothesis =>
    obtain ⟨items, written, closed⟩ := ofToken_markup token
    obtain ⟨others, later, closes⟩ := inductionHypothesis
    refine ⟨items ++ others, ?_, closed.append closes⟩
    rw [List.flatMap_cons, Piece.contents_append, written, later, List.flatMap_append]

/-- Whatever the texts of tokens are, what is written for them is one element, and its body is
markup: tags open and close in turn, the delimiters of tags are in tags only and ampersands in
entities only, and each character of the tokens is shown under the style class of its token. -/
theorem render_markup (tokens : List Token) :
    ∃ device body items, ∃ names : List Markup.Name,
      (render tokens).run (Device.empty none) = (.ok (), device) ∧
      device.text? = some ("<pre class=\"cm-s-default\">".toList ++ body ++ "</pre>\n".toList) ∧
      Markup.read? body = some items ∧
      body = items.flatMap Markup.source ∧
      Markup.tags items = names.flatMap (fun name => [.opening name, .closing]) ∧
      (∀ item ∈ items, ∀ c ∈ item.source,
        (c ∈ ['<', '>', '"'] → item.kind? = some .tag) ∧
          (c = '&' → item.kind? = some .entity)) ∧
      Markup.shown none items
        = tokens.flatMap fun token => token.text.map (·, token.cls.styleClass?) := by
  obtain ⟨items, written, closed⟩ := ofTokens_markup tokens
  obtain ⟨device, accepted, text⟩ := (render_writes (.ofList tokens)).text
  obtain ⟨names, tags⟩ := closed.tags
  refine ⟨device, _, items, names, accepted, ?_, Markup.read?_eq_some_iff.mpr rfl, rfl, tags,
    ?_, ?_⟩
  · rw [text, ← written]
    simp [pieces, Piece.contents_append]
  · exact fun item _ c member => Markup.kind?_of_mem_source member
  · simpa [Markup.shown] using closed.shown []

end Html

end Highlighter
