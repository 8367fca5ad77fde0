import Highlighter.Pattern.Anchored
import Highlighter.Proofs.Pattern.Invariant

/-!
# The spans of a match

A match lies in the text that was searched, and the stretch of each of its
groups lies inside it.  This holds of every tree, also of one whose numbers do
not fit together, and of matches that begin after the start of the text.
-/

set_option autoImplicit false

namespace Highlighter

/-- What is recorded of a way lies between its start and the place of `index` characters. -/
structure Path.Within (path : Path) (index : Nat) : Prop where
  start : path.start ≤ index
  opened : ∀ start ∈ path.opened, path.start ≤ start ∧ start ≤ index
  groups : ∀ group ∈ path.groups, path.start ≤ group.2.start ∧
    group.2.start ≤ group.2.stop ∧ group.2.stop ≤ index

/-- A match lies in a text of `length` characters, and each of its groups lies inside the match. -/
structure Match.Within (found : Match) (length : Nat) : Prop where
  ordered : found.span.start ≤ found.span.stop
  bounded : found.span.stop ≤ length
  groups : ∀ group ∈ found.groups, found.span.start ≤ group.2.start ∧
    group.2.start ≤ group.2.stop ∧ group.2.stop ≤ found.span.stop

namespace Path

theorem Within.mono {path : Path} {index later : Nat} (within : path.Within index)
    (order : index ≤ later) : path.Within later := by
  refine ⟨Nat.le_trans within.start order, ?_, ?_⟩
  · intro start member
    have bounds := within.opened start member
    exact ⟨bounds.1, Nat.le_trans bounds.2 order⟩
  · intro group member
    have bounds := within.groups group member
    exact ⟨bounds.1, bounds.2.1, Nat.le_trans bounds.2.2 order⟩

theorem begin_within (index : Nat) : (begin index).Within index :=
  ⟨Nat.le_refl index, fun _ member => (nomatch member), fun _ member => (nomatch member)⟩

theorem enterGroup_within {path : Path} {index : Nat} (within : path.Within index) :
    (path.enterGroup index).Within index := by
  refine ⟨within.start, ?_, within.groups⟩
  intro start member
  rcases List.mem_cons.mp member with same | outer
  · subst same
    exact ⟨within.start, Nat.le_refl start⟩
  · exact within.opened start outer

theorem leaveGroup_within {path : Path} {index : Nat} (group : Nat) (within : path.Within index) :
    (path.leaveGroup group index).Within index := by
  unfold Path.leaveGroup
  split
  · exact within
  · rename_i start opened innermost
    have bounds := within.opened start (innermost ▸ List.mem_cons_self)
    refine ⟨within.start, ?_, ?_⟩
    · intro other member
      exact within.opened other (innermost ▸ List.mem_cons_of_mem _ member)
    · intro other member
      rcases List.mem_cons.mp member with same | earlier
      · subst same
        exact ⟨bounds.1, bounds.2, Nat.le_refl index⟩
      · exact within.groups other earlier

theorem within_keeps (index : Nat) : Keeps (fun path => path.Within index) index where
  pass _ _ within := ⟨within.start, within.opened, within.groups⟩
  enterGroup _ within := enterGroup_within within
  leaveGroup _ group within := leaveGroup_within group within

end Path

namespace Match

theorem mem_of_group? {found : Match} {index : Nat} {span : Span}
    (present : found.group? index = some span) : (index, span) ∈ found.groups := by
  obtain ⟨before, after, groups, -⟩ := List.lookup_eq_some_iff.mp present
  rw [groups]
  exact List.mem_append_right _ List.mem_cons_self

/-- The stretch of a group that took part lies inside the match. -/
theorem Within.group? {found : Match} {length index : Nat} {span : Span}
    (within : found.Within length) (present : found.group? index = some span) :
    found.span.start ≤ span.start ∧ span.start ≤ span.stop ∧ span.stop ≤ found.span.stop :=
  within.groups (index, span) (mem_of_group? present)

end Match

/-! ## One place of the text at a time -/

namespace Tree

/-- The threads that take the character `after`, and the best match up to here. -/
def arrive (tree : Tree) (anchored : Bool) (threads : List Thread) (best : Option Match)
    (before : Option Char) (index : Nat) (after : Option Char) : List Thread × Option Match :=
  let reached := tree.advance ⟨before, after, index⟩
    (best.isNone && (index == 0 || !anchored)) threads
  (reached.1,
    match reached.2 with
    | some path => some (.ofPath path index)
    | none => best)

theorem search_nil (tree : Tree) (anchored : Bool) (threads : List Thread) (best : Option Match)
    (before : Option Char) (index : Nat) :
    tree.search anchored threads best before index []
      = (tree.arrive anchored threads best before index none).2 := rfl

theorem search_cons (tree : Tree) (anchored : Bool) (threads : List Thread) (best : Option Match)
    (before : Option Char) (index : Nat) (c : Char) (rest : List Char) :
    tree.search anchored threads best before index (c :: rest)
      = let reached := tree.arrive anchored threads best before index (some c)
        if reached.1.isEmpty && (reached.2.isSome || anchored) then reached.2
        else tree.search anchored (Thread.distinct .empty reached.1) reached.2 (some c) (index + 1)
          rest := rfl

section Kept
variable {onPath : Nat → Path → Prop} (keeps : ∀ index, Path.Keeps (onPath index) index)
  (onward : ∀ index path, onPath index path → onPath (index + 1) path) {anchored : Bool}
  (begins : ∀ index, index = 0 ∨ anchored = false → onPath index (.begin index))

/-- A match that ends within `length` characters, at a place where its way is still kept. -/
def EndsKept (onPath : Nat → Path → Prop) (length : Nat) (found : Match) : Prop :=
  ∃ path stop, stop ≤ length ∧ onPath stop path ∧ found = .ofPath path stop

theorem EndsKept.mono {length longer : Nat} {found : Match} (kept : EndsKept onPath length found)
    (order : length ≤ longer) : EndsKept onPath longer found := by
  obtain ⟨path, stop, bounded, own, rfl⟩ := kept
  exact ⟨path, stop, Nat.le_trans bounded order, own, rfl⟩

include keeps begins in
theorem arrive_kept (tree : Tree) {threads : List Thread}
    {best : Option Match} (before : Option Char) {index : Nat} (after : Option Char)
    (threadsKept : ∀ thread ∈ threads, onPath index thread.path)
    (bestKept : ∀ found, best = some found → EndsKept onPath index found) :
    (∀ thread ∈ (tree.arrive anchored threads best before index after).1,
        onPath index thread.path) ∧
      ∀ found, (tree.arrive anchored threads best before index after).2 = some found →
        EndsKept onPath index found := by
  have stops : MayStop (fun thread => onPath index thread.path) (onPath index)
      ⟨before, after, index⟩ tree := fun _ _ _ _ _ kept => kept
  have reached := advance_all (keeps index) stops
    (best.isNone && (index == 0 || !anchored)) threads threadsKept
    (fun fresh => begins index (by simpa using (Bool.and_eq_true_iff.mp fresh).2))
  refine ⟨reached.1, ?_⟩
  intro found equation
  unfold arrive at equation
  dsimp only at equation
  split at equation
  · rename_i path through
    cases equation
    exact ⟨path, index, Nat.le_refl index, reached.2 path through, rfl⟩
  · exact bestKept found equation

include keeps onward begins in
theorem search_kept (tree : Tree) (text : List Char) :
    ∀ threads best before index,
      (∀ thread ∈ threads, onPath index thread.path) →
      (∀ found, best = some found → EndsKept onPath index found) →
      ∀ found, tree.search anchored threads best before index text = some found →
        EndsKept onPath (index + text.length) found := by
  induction text with
  | nil =>
    intro threads best before index threadsKept bestKept found equation
    rw [search_nil] at equation
    exact (arrive_kept keeps begins tree before none threadsKept bestKept).2 found
      equation
  | cons c rest inductionHypothesis =>
    intro threads best before index threadsKept bestKept found equation
    obtain ⟨going, here⟩ :=
      arrive_kept keeps begins tree before (some c) threadsKept bestKept
    rw [search_cons] at equation
    dsimp only at equation
    split at equation
    · exact (here found equation).mono (Nat.le_add_right _ _)
    · have later := inductionHypothesis _ _ _ _
        (fun thread member =>
          onward index _ (going thread (Thread.mem_of_mem_distinct _ _ member)))
        (fun found equation => (here found equation).mono (Nat.le_succ index)) found equation
      rw [List.length_cons, Nat.add_comm rest.length 1, ← Nat.add_assoc]
      exact later

include keeps onward begins in
/-- What each step of a way keeps holds of the way of a match. -/
theorem find?_kept (tree : Tree) {text : List Char} {found : Match}
    (finds : tree.find? anchored text = some found) : EndsKept onPath text.length found := by
  have kept := search_kept keeps onward begins tree text [] none none 0
    (fun _ member => (nomatch member)) (fun _ equation => (nomatch equation)) found finds
  rwa [Nat.zero_add] at kept

end Kept

end Tree

/-- A match lies in the text and its groups lie inside it. -/
theorem Pattern.find?_within (pattern : Pattern) {text : List Char} {found : Match}
    (finds : pattern.find? text = some found) : found.Within text.length := by
  obtain ⟨path, stop, bounded, within, rfl⟩ := pattern.tree.find?_kept Path.within_keeps
    (fun index path within => Path.Within.mono within (Nat.le_succ index))
    (fun index _ => Path.begin_within index) finds
  exact ⟨within.start, bounded, within.groups⟩

/-- A match that may begin at the start of the text only does begin there. -/
theorem Tree.find?_start (tree : Tree) {text : List Char} {found : Match}
    (finds : tree.find? true text = some found) : found.span.start = 0 := by
  have keeps : ∀ index, Path.Keeps (fun path => path.start = 0) index := by
    refine fun index => ⟨fun _ _ start => start, fun _ start => start, fun path group start => ?_⟩
    unfold Path.leaveGroup
    split <;> exact start
  have begins : ∀ index, index = 0 ∨ true = false → (Path.begin index).start = 0 :=
    fun index first => first.resolve_right Bool.noConfusion
  obtain ⟨path, stop, -, start, rfl⟩ :=
    tree.find?_kept keeps (fun _ _ start => start) begins finds
  exact start

end Highlighter
