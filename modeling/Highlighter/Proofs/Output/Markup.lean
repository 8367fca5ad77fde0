import Mathlib.Data.List.Basic
import Mathlib.Tactic.Common

/-!
# Markup

A text in HTML is made of tags, entities and characters that stand for
themselves.  A reader finds one after the other; it accepts the source of a list
of them, and nothing else.
-/

set_option autoImplicit false

namespace Highlighter

/-- The characters that do not stand for themselves. -/
def Markup.special : List Char := ['&', '<', '>', '"']

/-- The name of a style class, fit to stand in a tag. -/
structure Markup.Name where
  text : List Char
  bare : text.all (· ∉ Markup.special)
  deriving DecidableEq, Repr

theorem Markup.Name.not_special (name : Name) {c : Char} (member : c ∈ name.text) :
    c ∉ special :=
  of_decide_eq_true (List.all_eq_true.mp name.bare c member)

inductive Markup.Entity where
  | ampersand
  | less
  | greater
  | quote
  deriving DecidableEq, Repr

inductive Markup where
  /-- The tag that opens a `span` of a style class. -/
  | opening (cls : Markup.Name)
  /-- The tag that closes a `span`. -/
  | closing
  | entity (which : Markup.Entity)
  | bare (c : Char) (plain : c ∉ Markup.special)
  deriving DecidableEq, Repr

namespace Markup

namespace Entity

def all : List Entity := [ampersand, less, greater, quote]

def name : Entity → List Char
  | ampersand => "amp".toList
  | less => "lt".toList
  | greater => "gt".toList
  | quote => "quot".toList

def character : Entity → Char
  | ampersand => '&'
  | less => '<'
  | greater => '>'
  | quote => '"'

def ofName? (name : List Char) : Option Entity :=
  all.find? fun entity => entity.name == name

theorem ofName?_eq_some_iff {name : List Char} {entity : Entity} :
    ofName? name = some entity ↔ entity.name = name := by
  constructor
  · intro found
    simpa using List.find?_some found
  · rintro rfl
    cases entity <;> decide

end Entity

/-! ## Tags and entities -/

/-- What is set apart by one character before it and another behind it. -/
inductive Kind where
  | tag
  | entity
  deriving DecidableEq, Repr

def Kind.first : Kind → Char
  | tag => '<'
  | entity => '&'

def Kind.last : Kind → Char
  | tag => '>'
  | entity => ';'

def kind? : Markup → Option Kind
  | opening _ | closing => some .tag
  | entity _ => some .entity
  | bare _ _ => none

def openingFront : List Char := "span class=\"cm-".toList

def closingContent : List Char := "/span".toList

def source : Markup → List Char
  | opening cls => '<' :: (openingFront ++ (cls.text ++ ['"']) ++ ['>'])
  | closing => '<' :: (closingContent ++ ['>'])
  | entity which => '&' :: (which.name ++ [';'])
  | bare c _ => [c]

/-- A tag or an entity ends with the first character that can end it. -/
theorem exists_content {item : Markup} {kind : Kind} (same : item.kind? = some kind) :
    ∃ content, item.source = kind.first :: (content ++ [kind.last]) ∧ kind.last ∉ content := by
  cases item with
  | opening cls =>
    cases same
    have around : Kind.tag.last ∉ openingFront ∧ Kind.tag.last ≠ '"' := by decide
    have inside : Kind.tag.last ∉ cls.text := fun among => cls.not_special among (by decide)
    exact ⟨_, rfl, by simp [around, inside]⟩
  | closing =>
    cases same
    exact ⟨closingContent, rfl, by decide⟩
  | entity which =>
    cases same
    exact ⟨which.name, rfl, by cases which <;> decide⟩
  | bare c plain => cases same

/-- Characters that delimit tags are in tags only, and ampersands are in entities only. -/
theorem kind?_of_mem_source {item : Markup} {c : Char} (member : c ∈ item.source) :
    (c ∈ ['<', '>', '"'] → item.kind? = some .tag) ∧ (c = '&' → item.kind? = some .entity) := by
  cases item with
  | opening cls =>
    refine ⟨fun _ => rfl, ?_⟩
    rintro rfl
    have around : '&' ∉ openingFront := by decide
    have inside : '&' ∉ cls.text := fun among => cls.not_special among (by decide)
    simp [source, around, inside] at member
  | closing =>
    refine ⟨fun _ => rfl, ?_⟩
    rintro rfl
    exact absurd member (by decide)
  | entity which =>
    have none : (entity which).source.all (· ∉ ['<', '>', '"']) := by
      cases which <;> decide
    have other := of_decide_eq_true (List.all_eq_true.mp none c member)
    exact ⟨fun delimiter => absurd delimiter other, fun _ => rfl⟩
  | bare d plain =>
    rw [List.mem_singleton.mp member]
    refine ⟨fun delimiter => absurd (List.mem_cons_of_mem _ delimiter) plain, ?_⟩
    rintro rfl
    exact absurd List.mem_cons_self plain

/-! ## Reading -/

def tag? (content : List Char) : Option Markup :=
  if content = closingContent then some .closing
  else ((content.dropPrefix? openingFront).bind (·.dropSuffix? ['"'])).bind fun name =>
    if bare : name.all (· ∉ special) then some (.opening ⟨name, bare⟩) else none

def Kind.item? : Kind → List Char → Option Markup
  | tag, content => tag? content
  | entity, content => (Entity.ofName? content).map .entity

/-- Reads a text, given what has been read of a tag or an entity that has not ended. -/
def readFrom : Option (Kind × List Char) → List Char → Option (List Markup)
  | none, [] => some []
  | some _, [] => none
  | none, c :: rest =>
    if c = Kind.tag.first then readFrom (some (.tag, [])) rest
    else if c = Kind.entity.first then readFrom (some (.entity, [])) rest
    else if plain : c ∉ special then (readFrom none rest).map (.bare c plain :: ·)
    else none
  | some (kind, front), c :: rest =>
    if c = kind.last then (kind.item? front).bind fun item => (readFrom none rest).map (item :: ·)
    else readFrom (some (kind, front ++ [c])) rest

def read? (text : List Char) : Option (List Markup) := readFrom none text

theorem tag?_eq_some_iff {content : List Char} {item : Markup} :
    tag? content = some item ↔
      item.kind? = some .tag ∧ item.source = '<' :: (content ++ ['>']) := by
  constructor
  · intro found
    unfold tag? at found
    split at found
    · rename_i closes
      cases found
      rw [closes]
      exact ⟨rfl, rfl⟩
    · obtain ⟨name, inside, accepted⟩ := Option.bind_eq_some_iff.mp found
      obtain ⟨rest, begins, ends⟩ := Option.bind_eq_some_iff.mp inside
      obtain ⟨front, rfl, isFront⟩ := List.dropPrefix?_eq_some_iff.mp begins
      obtain ⟨back, rfl, isBack⟩ := List.dropSuffix?_eq_some_iff.mp ends
      rw [beq_iff_eq] at isFront isBack
      subst isFront isBack
      split at accepted
      · cases accepted
        exact ⟨rfl, rfl⟩
      · cases accepted
  · rintro ⟨isTag, whole⟩
    cases item with
    | opening cls =>
      have same := List.append_cancel_right (List.cons.inj whole).2
      have other : openingFront ++ (cls.text ++ ['"']) ≠ closingContent := by
        have front : openingFront = 's' :: openingFront.tail := by decide
        have back : closingContent = '/' :: closingContent.tail := by decide
        rw [front, back]
        simp
      have begins : (openingFront ++ (cls.text ++ ['"'])).dropPrefix? openingFront
          = some (cls.text ++ ['"']) :=
        List.dropPrefix?_eq_some_iff.mpr ⟨openingFront, rfl, beq_self_eq_true _⟩
      have ends : (cls.text ++ ['"']).dropSuffix? ['"'] = some cls.text :=
        List.dropSuffix?_eq_some_iff.mpr ⟨['"'], rfl, beq_self_eq_true _⟩
      rw [← same]
      unfold tag?
      rw [if_neg other, begins, Option.bind_some, ends, Option.bind_some, dif_pos cls.bare]
    | closing =>
      have same := List.append_cancel_right (List.cons.inj whole).2
      rw [← same]
      rfl
    | entity which => cases isTag
    | bare c plain => cases isTag

theorem item?_eq_some_iff {kind : Kind} {content : List Char} {item : Markup} :
    kind.item? content = some item ↔
      item.kind? = some kind ∧ item.source = kind.first :: (content ++ [kind.last]) := by
  cases kind with
  | tag => exact tag?_eq_some_iff
  | entity =>
    constructor
    · intro found
      obtain ⟨which, named, rfl⟩ := Option.map_eq_some_iff.mp found
      rw [← Entity.ofName?_eq_some_iff.mp named]
      exact ⟨rfl, rfl⟩
    · rintro ⟨isEntity, whole⟩
      cases item with
      | opening cls => cases isEntity
      | closing => cases isEntity
      | entity which =>
        have same := List.append_cancel_right (List.cons.inj whole).2
        rw [← same]
        simp [Kind.item?, Entity.ofName?_eq_some_iff]
      | bare c plain => cases isEntity

theorem readFrom_append {kind : Kind} {content : List Char} (inside : kind.last ∉ content)
    (rest : List Char) : ∀ front,
      readFrom (some (kind, front)) (content ++ kind.last :: rest)
        = (kind.item? (front ++ content)).bind fun item =>
            (readFrom none rest).map (item :: ·) := by
  induction content with
  | nil =>
    intro front
    simp [readFrom]
  | cons c content inductionHypothesis =>
    intro front
    rw [List.mem_cons, not_or] at inside
    simp [readFrom, Ne.symm inside.1, inductionHypothesis inside.2]

theorem readFrom_source (item : Markup) (rest : List Char) :
    readFrom none (item.source ++ rest) = (readFrom none rest).map (item :: ·) := by
  cases same : item.kind? with
  | some kind =>
    obtain ⟨content, whole, inside⟩ := item.exists_content same
    have found := item?_eq_some_iff.mpr ⟨same, whole⟩
    have later := readFrom_append inside rest []
    rw [List.nil_append, found, Option.bind_some] at later
    rw [whole, ← later]
    cases kind <;> simp [readFrom, Kind.first]
  | none =>
    cases item with
    | opening cls => cases same
    | closing => cases same
    | entity which => cases same
    | bare c plain =>
      have others : c ≠ Kind.tag.first ∧ c ≠ Kind.entity.first := by
        constructor <;> rintro rfl <;> exact plain (by decide)
      simp [source, readFrom, others, plain]

/-- What is read is the source of the items, together with what was read before. -/
theorem source_of_readFrom (text : List Char) : ∀ pending items,
    readFrom pending text = some items →
      (pending.elim [] fun (kind, front) => kind.first :: front) ++ text
        = items.flatMap source := by
  induction text with
  | nil =>
    intro pending items found
    cases pending with
    | none =>
      cases found
      rfl
    | some _ => cases found
  | cons c rest inductionHypothesis =>
    intro pending items found
    cases pending with
    | none =>
      simp only [readFrom] at found
      split at found
      · rename_i begins
        simpa [begins] using inductionHypothesis _ items found
      · split at found
        · rename_i begins
          simpa [begins] using inductionHypothesis _ items found
        · split at found
          · obtain ⟨later, read, rfl⟩ := Option.map_eq_some_iff.mp found
            simpa [source] using inductionHypothesis none later read
          · cases found
    | some pair =>
      obtain ⟨kind, front⟩ := pair
      simp only [readFrom] at found
      split at found
      · rename_i ends
        obtain ⟨item, own, others⟩ := Option.bind_eq_some_iff.mp found
        obtain ⟨later, read, rfl⟩ := Option.map_eq_some_iff.mp others
        have whole := (item?_eq_some_iff.mp own).2
        have further := inductionHypothesis none later read
        simp only [Option.elim_none, List.nil_append] at further
        simp [whole, ends, further]
      · simpa using inductionHypothesis _ items found

/-- A text has one reading at most, and each list of items is the reading of its source. -/
theorem read?_eq_some_iff {text : List Char} {items : List Markup} :
    read? text = some items ↔ text = items.flatMap source := by
  constructor
  · intro found
    simpa using source_of_readFrom text none items found
  · rintro rfl
    unfold read?
    induction items with
    | nil => rfl
    | cons item items inductionHypothesis =>
      rw [List.flatMap_cons, readFrom_source, inductionHypothesis, Option.map_some]

/-- A tag of another kind is no markup, and neither is an entity that does not end. -/
example : read? "<b>".toList = none ∧ read? "a&amp".toList = none := by
  decide

end Markup

end Highlighter
