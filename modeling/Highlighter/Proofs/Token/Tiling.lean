import Mathlib.Data.List.Chain
import Highlighter.Token.Basic

/-!
# Texts divided into tokens

Tokens tile a text when each takes up where the one before it ends, none is
empty, and together they are the text.  Tilings of neighbouring pieces of text
make a tiling of the whole, and a tiling stays one wherever the text is moved.
-/

set_option autoImplicit false

namespace Highlighter

/-- The tokens divide a text that begins at byte `offset`, in order and without gaps. -/
inductive Tiles : Nat → List Char → List Token → Prop where
  | done (offset : Nat) : Tiles offset [] []
  | next {offset : Nat} {segment rest : List Char} {tokens : List Token} (cls : TokenClass)
      (nonempty : segment ≠ []) (later : Tiles (offset + Utf8.size segment) rest tokens) :
      Tiles offset (segment ++ rest) (.ofText cls segment offset :: tokens)

/-- What a reader of the tokens of a whole text relies on. -/
structure Covers (text : List Char) (tokens : List Token) : Prop where
  nonempty : ∀ token ∈ tokens, token.start < token.stop
  first : ∀ token ∈ tokens.head?, token.start = 0
  contiguous : tokens.IsChain fun token following => following.start = token.stop
  last : ∀ token ∈ tokens.getLast?, token.stop = Utf8.size text
  /-- Both ends of a token are boundaries between characters, and its text stands between them. -/
  slice : ∀ token ∈ tokens, Utf8.slice? text token.start token.stop = some token.text
  joined : tokens.flatMap Token.text = text

theorem Utf8.size_pos {text : List Char} (nonempty : text ≠ []) : 0 < Utf8.size text := by
  cases text with
  | nil => exact absurd rfl nonempty
  | cons c rest =>
    have positive := c.utf8Size_pos
    rw [Utf8.size_cons]
    omega

/-! ## A character in a text of two pieces -/

section Pieces

variable {c : Char} {first second before after : List Char}

theorem exists_of_notMem_first (whole : first ++ second = before ++ c :: after)
    (absent : c ∉ first) : ∃ middle, before = first ++ middle ∧ second = middle ++ c :: after := by
  rcases List.append_eq_append_iff.mp whole with ⟨middle, rfl, rfl⟩ | ⟨middle, rfl, tail⟩
  · exact ⟨middle, rfl, rfl⟩
  · cases middle with
    | nil => exact ⟨[], by simp, by simpa using tail.symm⟩
    | cons d middle =>
      rw [List.cons_append] at tail
      obtain ⟨rfl, -⟩ := List.cons.inj tail
      exact absurd (List.mem_append_right _ List.mem_cons_self) absent

theorem exists_of_notMem_second (whole : first ++ second = before ++ c :: after)
    (absent : c ∉ second) : ∃ middle, first = before ++ c :: middle ∧ after = middle ++ second := by
  rcases List.append_eq_append_iff.mp whole with ⟨middle, rfl, rfl⟩ | ⟨middle, rfl, tail⟩
  · exact absurd (List.mem_append_right _ List.mem_cons_self) absent
  · cases middle with
    | nil =>
      rw [List.nil_append] at tail
      exact absurd (tail ▸ List.mem_cons_self) absent
    | cons d middle =>
      rw [List.cons_append] at tail
      obtain ⟨rfl, rfl⟩ := List.cons.inj tail
      exact ⟨middle, rfl, rfl⟩

end Pieces

namespace Tiles

variable {offset : Nat} {text : List Char} {tokens : List Token}

theorem single (cls : TokenClass) (offset : Nat) {segment : List Char} (nonempty : segment ≠ []) :
    Tiles offset segment [.ofText cls segment offset] := by
  have tiles := Tiles.next cls nonempty (.done (offset + Utf8.size segment))
  rwa [List.append_nil] at tiles

/-- Neighbouring pieces of text. -/
theorem append (first : Tiles offset text tokens) {more : List Char} {others : List Token}
    (second : Tiles (offset + Utf8.size text) more others) :
    Tiles offset (text ++ more) (tokens ++ others) := by
  induction first with
  | done offset => exact second
  | @next offset segment rest tokens cls nonempty later inductionHypothesis =>
    rw [List.append_assoc, List.cons_append]
    refine .next cls nonempty (inductionHypothesis ?_)
    rwa [Utf8.size_append, ← Nat.add_assoc] at second

theorem joined (tiles : Tiles offset text tokens) : tokens.flatMap Token.text = text := by
  induction tiles with
  | done offset => rfl
  | next cls nonempty later inductionHypothesis =>
    rw [List.flatMap_cons, inductionHypothesis]
    rfl

theorem nonempty (tiles : Tiles offset text tokens) : ∀ token ∈ tokens,
    token.start < token.stop := by
  induction tiles with
  | done offset => exact fun _ member => nomatch member
  | @next offset segment rest tokens cls nonempty later inductionHypothesis =>
    intro token member
    rcases List.mem_cons.mp member with same | other
    · have positive := Utf8.size_pos nonempty
      subst same
      exact Nat.lt_add_of_pos_right positive
    · exact inductionHypothesis token other

theorem bounds (tiles : Tiles offset text tokens) : ∀ token ∈ tokens,
    offset ≤ token.start ∧ token.stop ≤ offset + Utf8.size text := by
  induction tiles with
  | done offset => exact fun _ member => nomatch member
  | @next offset segment rest tokens cls nonempty later inductionHypothesis =>
    intro token member
    rw [Utf8.size_append]
    rcases List.mem_cons.mp member with same | other
    · subst same
      simp only [Token.ofText]
      omega
    · have inside := inductionHypothesis token other
      omega

theorem first (tiles : Tiles offset text tokens) : ∀ token ∈ tokens.head?,
    token.start = offset := by
  cases tiles with
  | done => exact fun _ member => nomatch member
  | next cls nonempty later =>
    intro token member
    cases member
    rfl

theorem contiguous (tiles : Tiles offset text tokens) :
    tokens.IsChain fun token following => following.start = token.stop := by
  induction tiles with
  | done offset => exact .nil
  | @next offset segment rest tokens cls nonempty later inductionHypothesis =>
    cases tokens with
    | nil => exact .singleton _
    | cons following others =>
      exact .cons_cons (later.first following rfl) inductionHypothesis

theorem last (tiles : Tiles offset text tokens) : ∀ token ∈ tokens.getLast?,
    token.stop = offset + Utf8.size text := by
  induction tiles with
  | done offset => exact fun _ member => nomatch member
  | @next offset segment rest tokens cls nonempty later inductionHypothesis =>
    intro token member
    cases tokens with
    | nil =>
      cases member
      cases later
      rw [List.append_nil]
      rfl
    | cons following others =>
      rw [List.getLast?_cons_cons] at member
      rw [inductionHypothesis token member, Utf8.size_append, Nat.add_assoc]

/-- A token is the token of the text that it stands over. -/
theorem exists_split (tiles : Tiles offset text tokens) : ∀ token ∈ tokens, ∃ front back,
    text = front ++ (token.text ++ back) ∧ token.text ≠ [] ∧
      token = .ofText token.cls token.text (offset + Utf8.size front) := by
  induction tiles with
  | done offset => exact fun _ member => nomatch member
  | @next offset segment rest tokens cls nonempty later inductionHypothesis =>
    intro token member
    rcases List.mem_cons.mp member with same | other
    · subst same
      exact ⟨[], rest, rfl, nonempty, rfl⟩
    · obtain ⟨front, back, split, filled, placed⟩ := inductionHypothesis token other
      refine ⟨segment ++ front, back, ?_, filled, ?_⟩
      · rw [split, List.append_assoc]
      · rwa [Utf8.size_append, ← Nat.add_assoc]

theorem stop_eq (tiles : Tiles offset text tokens) {token : Token} (member : token ∈ tokens) :
    token.stop = token.start + Utf8.size token.text := by
  obtain ⟨_, _, -, -, placed⟩ := tiles.exists_split token member
  rw [placed]
  rfl

/-- Only one token stands over a byte. -/
theorem eq_of_over (tiles : Tiles offset text tokens) {byte : Nat} : ∀ token ∈ tokens,
    ∀ other ∈ tokens, token.start ≤ byte → byte < token.stop → other.start ≤ byte →
      byte < other.stop → token = other := by
  induction tiles with
  | done offset => exact fun _ member => nomatch member
  | @next offset segment rest tokens cls nonempty later inductionHypothesis =>
    have behind : ∀ token ∈ tokens, token.start ≤ byte → ¬byte < offset + Utf8.size segment := by
      intro token member starts
      have bounds := later.bounds token member
      omega
    intro token member other otherMember starts stops otherStarts otherStops
    rcases List.mem_cons.mp member with rfl | among
    · rcases List.mem_cons.mp otherMember with rfl | otherAmong
      · rfl
      · exact absurd stops (behind other otherAmong otherStarts)
    · rcases List.mem_cons.mp otherMember with rfl | otherAmong
      · exact absurd otherStops (behind token among starts)
      · exact inductionHypothesis token among other otherAmong starts stops otherStarts otherStops

theorem slice (tiles : Tiles offset text tokens) (before after : List Char)
    (start : Utf8.size before = offset) : ∀ token ∈ tokens,
      Utf8.slice? (before ++ (text ++ after)) token.start token.stop = some token.text := by
  intro token member
  obtain ⟨front, back, split, -, placed⟩ := tiles.exists_split token member
  have between := Utf8.slice?_size_append (before ++ front) token.text (back ++ after)
  rw [Utf8.size_append, start] at between
  rw [placed, split]
  simpa [Token.ofText] using between

/-- A tiling of a whole text covers it. -/
theorem covers (tiles : Tiles 0 text tokens) : Covers text tokens where
  nonempty := tiles.nonempty
  first := tiles.first
  contiguous := tiles.contiguous
  last token member := by rw [tiles.last token member, Nat.zero_add]
  slice token member := by
    have slices := tiles.slice [] [] rfl token member
    rwa [List.nil_append, List.append_nil] at slices
  joined := tiles.joined

/-! ## The border of two neighbouring pieces -/

section Border

variable {more : List Char} {others : List Token}

/-- The tokens that start at the border or behind it are those of the second piece. -/
theorem filter_append (first : Tiles offset text tokens)
    (second : Tiles (offset + Utf8.size text) more others) :
    (tokens ++ others).filter (offset + Utf8.size text ≤ ·.start) = others := by
  have none : tokens.filter (offset + Utf8.size text ≤ ·.start) = [] := by
    refine List.filter_eq_nil_iff.mpr fun token member => ?_
    have bounds := first.bounds token member
    have positive := first.nonempty token member
    simp only [decide_eq_true_eq]
    omega
  have all : others.filter (offset + Utf8.size text ≤ ·.start) = others := by
    refine List.filter_eq_self.mpr fun token member => ?_
    simpa using (second.bounds token member).1
  rw [List.filter_append, none, all, List.nil_append]

/-- No token lies across the border. -/
theorem stop_le_of_start_lt (first : Tiles offset text tokens)
    (second : Tiles (offset + Utf8.size text) more others) : ∀ token ∈ tokens ++ others,
      token.start < offset + Utf8.size text → token.stop ≤ offset + Utf8.size text := by
  intro token member early
  rcases List.mem_append.mp member with own | other
  · exact (first.bounds token own).2
  · have late := (second.bounds token other).1
    omega

end Border

end Tiles

end Highlighter
