import Highlighter.Proofs.Pattern.Spans

/-!
# How far a match depends on the text

Whether a match ends at a place is settled by the text before the place and the
one character after it; what follows can only add matches that end further on.
A match from the start of the text holds no character that every place of the
tree refuses.
-/

set_option autoImplicit false

namespace Highlighter

namespace Tree

/-- What is best on arrival was best before, or ends here. -/
theorem arrive_best (tree : Tree) (anchored : Bool) (threads : List Thread) (best : Option Match)
    (before : Option Char) (index : Nat) (after : Option Char) :
    (tree.arrive anchored threads best before index after).2 = best ∨
      ∃ found, (tree.arrive anchored threads best before index after).2 = some found ∧
        found.span.stop = index := by
  unfold arrive
  dsimp only
  split
  · rename_i path _
    exact .inr ⟨.ofPath path index, rfl, rfl⟩
  · exact .inl rfl

/-- A search finds the best match so far, or one that ends no sooner than where it goes on. -/
theorem search_stop (tree : Tree) (anchored : Bool) (text : List Char) :
    ∀ threads best before index,
      tree.search anchored threads best before index text = best ∨
        ∃ found, tree.search anchored threads best before index text = some found ∧
          index ≤ found.span.stop := by
  induction text with
  | nil =>
    intro threads best before index
    rw [search_nil]
    rcases tree.arrive_best anchored threads best before index none with same | ⟨found, new, stop⟩
    · exact .inl same
    · exact .inr ⟨found, new, Nat.le_of_eq stop.symm⟩
  | cons c rest inductionHypothesis =>
    intro threads best before index
    have here := tree.arrive_best anchored threads best before index (some c)
    have later := inductionHypothesis
      (Thread.distinct .empty (tree.arrive anchored threads best before index (some c)).1)
      (tree.arrive anchored threads best before index (some c)).2 (some c) (index + 1)
    rw [search_cons]
    dsimp only
    split
    · rcases here with same | ⟨found, new, stop⟩
      · exact .inl same
      · exact .inr ⟨found, new, Nat.le_of_eq stop.symm⟩
    · rcases later with early | ⟨found, new, stop⟩
      · rw [early]
        rcases here with same | ⟨found, new, stop⟩
        · exact .inl same
        · exact .inr ⟨found, new, Nat.le_of_eq stop.symm⟩
      · exact .inr ⟨found, new, Nat.le_of_succ_le stop⟩

/-- Two searches go on alike over what their texts share and one character more.  They can differ
only where one of them finds a match that ends after that character. -/
theorem search_agree (tree : Tree) (anchored : Bool) (c : Char) (first second : List Char)
    (shared : List Char) : ∀ threads best before index,
      tree.search anchored threads best before index (shared ++ c :: first)
          = tree.search anchored threads best before index (shared ++ c :: second) ∨
        ∃ found, index + shared.length < found.span.stop ∧
          (tree.search anchored threads best before index (shared ++ c :: first) = some found ∨
            tree.search anchored threads best before index (shared ++ c :: second)
              = some found) := by
  induction shared with
  | nil =>
    intro threads best before index
    simp only [List.nil_append, search_cons]
    split
    · exact .inl rfl
    · -- Behind `c` each search keeps the best match so far, or its match ends there.
      have firstStop := tree.search_stop anchored first
        (Thread.distinct .empty (tree.arrive anchored threads best before index (some c)).1)
        (tree.arrive anchored threads best before index (some c)).2 (some c) (index + 1)
      have secondStop := tree.search_stop anchored second
        (Thread.distinct .empty (tree.arrive anchored threads best before index (some c)).1)
        (tree.arrive anchored threads best before index (some c)).2 (some c) (index + 1)
      rcases firstStop with early | ⟨found, new, stop⟩
      · rcases secondStop with other | ⟨found, new, stop⟩
        · exact .inl (early.trans other.symm)
        · exact .inr ⟨found, stop, .inr new⟩
      · exact .inr ⟨found, stop, .inl new⟩
  | cons next shared inductionHypothesis =>
    intro threads best before index
    simp only [List.cons_append, search_cons]
    split
    · exact .inl rfl
    · have later := inductionHypothesis
        (Thread.distinct .empty (tree.arrive anchored threads best before index (some next)).1)
        (tree.arrive anchored threads best before index (some next)).2 (some next) (index + 1)
      have count : index + (next :: shared).length = index + 1 + shared.length := by
        rw [List.length_cons]
        omega
      rw [count]
      exact later

/-- No thread goes on over a character that the tree avoids. -/
theorem arrive_avoids {tree : Tree} {c : Char} (avoided : tree.avoids c = true) (anchored : Bool)
    (threads : List Thread) (best : Option Match) (before : Option Char) (index : Nat) :
    (tree.arrive anchored threads best before index (some c)).1 = [] := by
  have keeps : Path.Keeps (fun _ => True) index := ⟨fun _ _ _ => trivial, fun _ _ => trivial,
    fun _ _ _ => trivial⟩
  -- A thread would stop at a place that takes `c`, and there is none.
  have stops : MayStop (fun _ => False) (fun _ => True) ⟨before, some c, index⟩ tree := by
    intro other next takes
    cases next
    rw [avoided] at takes
    cases takes
  have reached := advance_all keeps stops (best.isNone && (index == 0 || !anchored)) threads
    (fun _ _ => trivial) (fun _ => trivial)
  exact List.eq_nil_iff_forall_not_mem.mpr reached.1

/-- A search from the start of the text goes no further than a character that the tree avoids. -/
theorem search_avoids {tree : Tree} {c : Char} (avoided : tree.avoids c = true) (rest : List Char)
    (shared : List Char) : ∀ threads best before index,
      (∀ found, best = some found → found.span.stop ≤ index) →
      ∀ found, tree.search true threads best before index (shared ++ c :: rest) = some found →
        found.span.stop ≤ index + shared.length := by
  induction shared with
  | nil =>
    intro threads best before index bounded found finds
    rw [List.nil_append, search_cons] at finds
    simp only [arrive_avoids avoided, List.isEmpty_nil, Bool.or_true, Bool.and_self,
      if_true] at finds
    rcases tree.arrive_best true threads best before index (some c) with same | ⟨_, new, stop⟩
    · exact bounded found (same ▸ finds)
    · rw [new] at finds
      cases finds
      exact Nat.le_of_eq stop
  | cons next shared inductionHypothesis =>
    intro threads best before index bounded found finds
    have here : ∀ found, (tree.arrive true threads best before index (some next)).2 = some found →
        found.span.stop ≤ index := by
      intro found equation
      rcases tree.arrive_best true threads best before index (some next) with same | ⟨_, new, stop⟩
      · exact bounded found (same ▸ equation)
      · rw [new] at equation
        cases equation
        exact Nat.le_of_eq stop
    rw [List.cons_append, search_cons] at finds
    dsimp only at finds
    split at finds
    · exact Nat.le_trans (here found finds) (Nat.le_add_right _ _)
    · have later := inductionHypothesis _ _ _ _
        (fun found equation => Nat.le_succ_of_le (here found equation)) found finds
      rw [List.length_cons]
      omega

end Tree

namespace Pattern

/-- Two texts that agree up to a place and on the character after it have the same match, unless
one of them has a match that ends after that character. -/
theorem find?_agree (pattern : Pattern) (shared : List Char) (c : Char)
    (first second : List Char) :
    pattern.find? (shared ++ c :: first) = pattern.find? (shared ++ c :: second) ∨
      ∃ found, shared.length < found.span.stop ∧
        (pattern.find? (shared ++ c :: first) = some found ∨
          pattern.find? (shared ++ c :: second) = some found) := by
  have agree := pattern.tree.search_agree pattern.isAnchored c first second shared [] none none 0
  rwa [Nat.zero_add] at agree

/-- An anchored match holds no character that the tree avoids. -/
theorem find?_avoids {pattern : Pattern} {c : Char} (anchored : pattern.isAnchored = true)
    (avoided : pattern.tree.avoids c = true) {text : List Char} {found : Match}
    (finds : pattern.find? text = some found) : c ∉ text.take found.span.stop := by
  intro member
  obtain ⟨shared, rest, split⟩ := List.append_of_mem member
  have bounded : found.span.stop ≤ shared.length := by
    unfold Pattern.find? Tree.find? at finds
    rw [anchored, ← List.take_append_drop found.span.stop text, split, List.append_assoc,
      List.cons_append] at finds
    have stop := Tree.search_avoids avoided _ shared [] none none 0
      (fun _ equation => (nomatch equation)) found finds
    rwa [Nat.zero_add] at stop
  have count : (text.take found.span.stop).length = shared.length + (rest.length + 1) := by
    rw [split, List.length_append, List.length_cons]
  rw [List.length_take] at count
  omega

end Pattern

end Highlighter
