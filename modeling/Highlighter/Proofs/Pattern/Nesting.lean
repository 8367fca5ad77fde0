import Mathlib.Data.List.Pairwise
import Highlighter.Proofs.Pattern.Spans

/-!
# How the groups of a match lie to each other

A group is recorded when it is left, with the place where it was entered last, and
groups are left in the reverse of the order in which they were entered.  So of two
groups of a match either one lies before the other or one lies inside the other,
also where a repetition has recorded them in different rounds.
-/

set_option autoImplicit false

namespace Highlighter

namespace Span

def Before (first second : Span) : Prop := first.stop ≤ second.start

def Inside (inner outer : Span) : Prop := outer.start ≤ inner.start ∧ inner.stop ≤ outer.stop

/-- Two stretches do not overlap, unless one lies inside the other. -/
inductive Nests (first second : Span) : Prop where
  | before (order : first.Before second)
  | after (order : second.Before first)
  | inside (order : first.Inside second)
  | around (order : second.Inside first)

theorem Nests.refl (span : Span) : span.Nests span :=
  .inside ⟨Nat.le_refl _, Nat.le_refl _⟩

theorem Nests.symm {first second : Span} (nests : first.Nests second) : second.Nests first := by
  cases nests with
  | before order => exact .after order
  | after order => exact .before order
  | inside order => exact .around order
  | around order => exact .inside order

end Span

/-- What is open and what is recorded of a way up to the place of `index` characters nests. -/
structure Path.Nested (path : Path) (index : Nat) : Prop where
  /-- An inner group was entered after the groups around it. -/
  inner : path.opened.Pairwise (· ≥ ·)
  opened : ∀ start ∈ path.opened, start ≤ index
  recorded : ∀ group ∈ path.groups, group.2.stop ≤ index
  /-- A group was recorded before an open one was entered, or lies inside it so far. -/
  apart : ∀ start ∈ path.opened, ∀ group ∈ path.groups,
    group.2.stop ≤ start ∨ start ≤ group.2.start
  groups : path.groups.Pairwise fun group other => group.2.Nests other.2

namespace Path

theorem Nested.mono {path : Path} {index later : Nat} (nested : path.Nested index)
    (order : index ≤ later) : path.Nested later where
  inner := nested.inner
  opened start member := Nat.le_trans (nested.opened start member) order
  recorded group member := Nat.le_trans (nested.recorded group member) order
  apart := nested.apart
  groups := nested.groups

theorem begin_nested (index : Nat) : (begin index).Nested index where
  inner := .nil
  opened _ member := nomatch member
  recorded _ member := nomatch member
  apart _ member := nomatch member
  groups := .nil

theorem enterGroup_nested {path : Path} {index : Nat} (nested : path.Nested index) :
    (path.enterGroup index).Nested index where
  inner := .cons nested.opened nested.inner
  opened start member := by
    rcases List.mem_cons.mp member with same | outer
    · exact Nat.le_of_eq same
    · exact nested.opened start outer
  recorded := nested.recorded
  apart start member group recorded := by
    rcases List.mem_cons.mp member with same | outer
    · exact .inl (same ▸ nested.recorded group recorded)
    · exact nested.apart start outer group recorded
  groups := nested.groups

theorem leaveGroup_nested {path : Path} {index : Nat} (group : Nat)
    (nested : path.Nested index) : (path.leaveGroup group index).Nested index := by
  unfold Path.leaveGroup
  split
  · exact nested
  · rename_i start outer innermost
    have entered : start ∈ path.opened := innermost ▸ List.mem_cons_self
    have stillOpen : ∀ other ∈ outer, other ∈ path.opened := fun other member =>
      innermost ▸ List.mem_cons_of_mem start member
    have inner := nested.inner
    rw [innermost] at inner
    refine ⟨inner.of_cons, fun other member => nested.opened other (stillOpen other member),
      ?_, ?_, ?_⟩
    · intro other member
      rcases List.mem_cons.mp member with same | earlier
      · exact same ▸ Nat.le_refl index
      · exact nested.recorded other earlier
    · intro other member recorded among
      rcases List.mem_cons.mp among with same | earlier
      · exact .inr (same ▸ List.rel_of_pairwise_cons inner member)
      · exact nested.apart other (stillOpen other member) recorded earlier
    · refine .cons ?_ nested.groups
      intro earlier member
      rcases nested.apart start entered earlier member with before | inside
      · exact .after before
      · exact .around ⟨inside, nested.recorded earlier member⟩

theorem nested_keeps (index : Nat) : Keeps (fun path => path.Nested index) index where
  pass _ _ nested := ⟨nested.inner, nested.opened, nested.recorded, nested.apart, nested.groups⟩
  enterGroup _ nested := enterGroup_nested nested
  leaveGroup _ group nested := leaveGroup_nested group nested

end Path

/-- Any two groups of a match nest. -/
theorem Pattern.find?_nests (pattern : Pattern) {text : List Char} {found : Match}
    (finds : pattern.find? text = some found) {first second : Nat} {span other : Span}
    (own : found.group? first = some span) (others : found.group? second = some other) :
    span.Nests other := by
  obtain ⟨path, stop, -, nested, rfl⟩ := pattern.tree.find?_kept Path.nested_keeps
    (fun index path nested => Path.Nested.mono nested (Nat.le_succ index))
    (fun index _ => Path.begin_nested index) finds
  have symmetric : Std.Symm fun group other : Nat × Span => group.2.Nests other.2 :=
    ⟨fun _ _ nests => nests.symm⟩
  exact List.Pairwise.forall_of_forall (fun group _ => .refl group.2) nested.groups
    (Match.mem_of_group? own) (Match.mem_of_group? others)

end Highlighter
