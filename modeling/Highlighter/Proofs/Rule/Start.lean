import Highlighter.Proofs.Language.Rules
import Highlighter.Proofs.Pattern.Wrapped
import Highlighter.Proofs.Scan.AnyOffset

/-!
# Rules match where they are tried

A tree that begins with the start of the text cannot be entered anywhere else, so
its search finds the same whether it goes on past the start or not.  Each pattern
that is accepted has such a tree, unless its text closes a group that it does not
open: what stands behind that parenthesis is then outside the group of the wrapper,
and may be a branch of its own that is found anywhere in the text.
-/

set_option autoImplicit false

namespace Highlighter

namespace Tree

/-- The tree is entered at the start of a text only. -/
def Starts (tree : Tree) : Prop :=
  ∀ before after index path, tree.enter ⟨some before, after, index⟩ 0 path = .none

theorem starts_ofParts (parts : List Expr) :
    (ofExpr (.ofParts (.check .textStart :: parts))).Starts := by
  intro before after index path
  cases parts <;> rfl

section Starts
variable {tree : Tree} (starts : tree.Starts)

include starts in
theorem advance_late (before : Char) (after : Option Char) (index : Nat) (fresh : Bool)
    (threads : List Thread) : tree.advance ⟨some before, after, index⟩ fresh threads
      = tree.follow ⟨some before, after, index⟩ threads := by
  unfold advance
  rw [starts]
  rcases tree.follow ⟨some before, after, index⟩ threads with ⟨going, through | path⟩
  · cases fresh with
    | false => rfl
    | true => simp [Ways.none, Ways.threads]
  · rfl

include starts in
/-- Where no thread is left, the rest of the text adds nothing. -/
theorem search_idle (text : List Char) (best : Option Match) : ∀ before index,
    tree.search false [] best (some before) index text = best := by
  induction text with
  | nil =>
    intro before index
    rw [search_nil, arrive, advance_late starts]
    rfl
  | cons c rest inductionHypothesis =>
    intro before index
    rw [search_cons, arrive, advance_late starts]
    dsimp only [follow]
    rw [Thread.distinct, inductionHypothesis, ite_self]

include starts in
theorem arrive_anchored (threads : List Thread) (best : Option Match) {before : Option Char}
    {index : Nat} (place : before = none → index = 0) (after : Option Char) :
    tree.arrive false threads best before index after
      = tree.arrive true threads best before index after := by
  cases before with
  | none =>
    rw [place rfl]
    rfl
  | some c =>
    unfold arrive
    rw [advance_late starts, advance_late starts]

include starts in
theorem search_anchored (text : List Char) : ∀ threads best before index,
    (before = none → index = 0) →
      tree.search false threads best before index text
        = tree.search true threads best before index text := by
  induction text with
  | nil =>
    intro threads best before index place
    rw [search_nil, search_nil, arrive_anchored starts threads best place]
  | cons c rest inductionHypothesis =>
    intro threads best before index place
    have later : ∀ threads best, tree.search false threads best (some c) (index + 1) rest
        = tree.search true threads best (some c) (index + 1) rest :=
      fun threads best => inductionHypothesis threads best _ _ fun none => nomatch none
    rw [search_cons, search_cons, arrive_anchored starts threads best place]
    obtain ⟨going, best⟩ := tree.arrive true threads best before index (some c)
    dsimp only
    rw [later]
    cases going with
    | cons thread going => rfl
    | nil =>
      -- The one search has ended; the other goes on without a thread.
      rw [Thread.distinct, ← later, search_idle starts, ite_self, ite_self]

include starts in
/-- The match that begins earliest is the one that begins at the start of the text. -/
theorem find?_anchored (anchored : Bool) (text : List Char) :
    tree.find? anchored text = tree.find? true text := by
  cases anchored with
  | false => exact search_anchored starts text [] none none 0 fun _ => rfl
  | true => rfl

end Starts

end Tree

theorem Pattern.starts_of_ofText {text : String} {pattern : Pattern}
    (accepted : ofText text = .ok pattern)
    (closed : PatternText.read text.toList ≠ .error .unopenedGroup) : pattern.tree.Starts := by
  unfold ofText at accepted
  cases parsed : PatternText.read (anchored text.toList) with
  | error cause =>
    rw [parsed] at accepted
    cases accepted
  | ok expr =>
    rw [parsed] at accepted
    change ofExpr expr = .ok pattern at accepted
    obtain ⟨parts, rfl⟩ := (PatternText.read_anchored parsed).resolve_right closed
    unfold ofExpr at accepted
    split at accepted
    · cases accepted
      exact Tree.starts_ofParts parts
    · cases accepted

namespace Rule

theorem pattern_of_ofText {name pattern : String} {labelling : Labelling} {rule : Rule}
    (accepted : ofText name pattern labelling = .ok rule) :
    Pattern.ofText pattern = .ok rule.pattern := by
  unfold ofText at accepted
  cases parsed : Pattern.ofText pattern with
  | error cause =>
    rw [parsed] at accepted
    cases accepted
  | ok own =>
    rw [parsed] at accepted
    dsimp only at accepted
    split at accepted
    · cases accepted
      rfl
    · split at accepted
      · cases accepted
        rfl
      · cases accepted

/-- A rule makes tokens where it is tried only if its pattern matches from there on, and of the
whole text behind the place this is the match that begins earliest.  So it is for every rule
whose pattern text does not close a group that it does not open. -/
theorem tokensAt?_start {name pattern : String} {labelling : Labelling} {rule : Rule}
    (accepted : ofText name pattern labelling = .ok rule)
    (closed : PatternText.read pattern.toList ≠ .error .unopenedGroup)
    (barred? : Option (Char → Bool)) {text : List Char} {offset : Nat} {tokens : List Token}
    (made : { rule with barred? }.tokensAt? text offset = some tokens) :
    ∃ front rest found, text = front ++ rest ∧ Utf8.size front = offset ∧
      rule.pattern.find? rest = some found ∧ rule.pattern.tree.find? false rest = some found ∧
      found.span.start = 0 ∧ tokens = rule.labelling.tokens offset rest found := by
  have starts := Pattern.starts_of_ofText (pattern_of_ofText accepted) closed
  obtain ⟨front, rest, found, rfl, rfl, search, -, rfl⟩ := tokensAt?_eq_some made
  have first : rule.pattern.tree.find? true rest = some found := by
    rw [← Tree.find?_anchored starts rule.pattern.isAnchored]
    exact search
  refine ⟨front, rest, found, rfl, rfl, search, ?_, Tree.find?_start _ first, rfl⟩
  rw [Tree.find?_anchored starts]
  exact first

def branches : Rule where
  name := "branches"
  pattern := .atStart (.orElse (.literal ['b']) (.literal ['a', 'b'])) 0
  labelling := .whole .keyword
  barred? := none

theorem tokensAt?_start_branches :
    branches.tokensAt? ['c', 'a', 'b'] 1 = some [.ofText .keyword ['a', 'b'] 1] ∧
      ∃ front rest found, ['c', 'a', 'b'] = front ++ rest ∧ Utf8.size front = 1 ∧
        branches.pattern.find? rest = some found ∧
        branches.pattern.tree.find? false rest = some found ∧ found.span.start = 0 ∧
        [.ofText .keyword ['a', 'b'] 1] = branches.labelling.tokens 1 rest found := by
  have accepted : ofText "branches" "b|ab" (.whole .keyword) = .ok branches :=
    ofText_whole branches.pattern (by decide +kernel) .keyword
  have closed : PatternText.read "b|ab".toList ≠ .error .unopenedGroup := by decide +kernel
  have made : branches.tokensAt? ['c', 'a', 'b'] 1 = some [.ofText .keyword ['a', 'b'] 1] := by
    decide +kernel
  exact ⟨made, tokensAt?_start accepted closed none made⟩

/-- The text `a)|(?:b` closes the group of the wrapper, and its second branch is found behind the
place where the rule is tried.  The token then holds all the text up to the end of the match. -/
theorem late_match_labelled : ∃ rule found,
    ofText "late" "a)|(?:b" (.whole .keyword) = .ok rule ∧
      rule.tokensAt? ['x', 'b'] 0 = some [.ofText .keyword ['x', 'b'] 0] ∧
      rule.pattern.find? ['x', 'b'] = some found ∧ found.span.start = 1 := by
  refine ⟨⟨"late", ⟨.orElse (.atStart (.literal ['a'])) (.literal ['b']), false, 0⟩,
    .whole .keyword, none⟩, ⟨⟨1, 2⟩, []⟩, ?_, ?_, ?_, rfl⟩
  · exact ofText_whole _ (by decide +kernel) .keyword
  · decide +kernel
  · decide +kernel

end Rule

end Highlighter
