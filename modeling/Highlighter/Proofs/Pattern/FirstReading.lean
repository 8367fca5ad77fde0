import Highlighter.Proofs.Pattern.Preference

/-!
# The match is the preferred reading

Following all open ways through a simple tree at once, one for each place, has
the same result as listing the readings: the match is the first of them.  A
thread that is left out stands at the place of an earlier one, and so it stands
for readings only if that one does too.
-/

set_option autoImplicit false

namespace Highlighter

/-- Leaving out a thread whose place has been seen keeps the first reading. -/
theorem Thread.head?_distinct {readings : Thread → List Reading}
    (alike : ∀ first second : Thread, first.place = second.place →
      readings first = [] → readings second = []) (threads : List Thread) :
    ∀ seen : Marks,
      (∀ thread : Thread, seen.contains thread.place = true → readings thread = []) →
        ((Thread.distinct seen threads).flatMap readings).head?
          = (threads.flatMap readings).head? := by
  induction threads with
  | nil => exact fun _ _ => rfl
  | cons thread threads inductionHypothesis =>
    intro seen nothing
    unfold distinct
    split
    · rename_i again
      rw [List.flatMap_cons, nothing thread again, List.nil_append]
      exact inductionHypothesis seen nothing
    · rw [List.flatMap_cons, List.flatMap_cons, List.head?_append, List.head?_append]
      by_cases none : readings thread = []
      · rw [inductionHypothesis (seen.insert thread.place)]
        intro other marked
        rw [Marks.contains_insert, Bool.or_eq_true, beq_iff_eq] at marked
        rcases marked with before | same
        · exact nothing other before
        · exact alike thread other same none
      · obtain ⟨first, rest, some⟩ := List.exists_cons_of_ne_nil none
        rw [some]
        rfl

/-- The readings of threads that take the next character, and of a way through. -/
def Tree.reachedReadings (tree : Tree) (before : Option Char) (text : List Char) (index : Nat)
    (reached : List Thread × Option Path) : List Reading :=
  reached.1.flatMap (Thread.readings text index (tree.readingsAfter 0))
    ++ (reached.2.map (Path.reading before text index)).toList

/-- The best match on arrival, unless a thread makes a better one. -/
theorem Tree.reachedReadings_match (tree : Tree) (before : Option Char) (text : List Char)
    (index : Nat) (going : List Thread) (through : Option Path) (best : Option Match) :
    ((tree.reachedReadings before text index (going, through)).head?.map Reading.toMatch).or best
      = ((going.flatMap (Thread.readings text index (tree.readingsAfter 0))).head?.map
          Reading.toMatch).or
        (match through with
          | some path => some (.ofPath path index)
          | none => best) := by
  unfold reachedReadings
  rw [List.head?_append]
  cases (going.flatMap (Thread.readings text index (tree.readingsAfter 0))).head? with
  | some first => rfl
  | none => cases through <;> rfl

namespace Tree.Simple

variable {tree : Tree}

theorem follow_inside (simple : tree.Simple) (site : Site) : ∀ threads : List Thread,
    (∀ thread ∈ threads, tree.HasPlace 0 thread.place) →
      ∀ thread ∈ (tree.follow site threads).1, tree.HasPlace 0 thread.place := by
  intro threads
  induction threads with
  | nil => exact fun _ _ member => nomatch member
  | cons first threads inductionHypothesis =>
    intro inside thread member
    have ways := simple.resume_inside site 0 first.place
      { first.path with passed := .empty } (inside first List.mem_cons_self)
    unfold follow at member
    dsimp only at member
    split at member
    · exact ways.threads thread (List.mem_append_left _ member)
    · rcases List.mem_append.mp member with own | later
      · exact ways.threads thread own
      · exact inductionHypothesis (fun other among => inside other (List.mem_cons_of_mem _ among))
          thread later

theorem advance_inside (simple : tree.Simple) (site : Site) (fresh : Bool) {threads : List Thread}
    (inside : ∀ thread ∈ threads, tree.HasPlace 0 thread.place) :
    ∀ thread ∈ (tree.advance site fresh threads).1, tree.HasPlace 0 thread.place := by
  have followed := simple.follow_inside site threads inside
  have entered := simple.enter_inside site 0 (.begin site.index)
  intro thread member
  unfold advance at member
  split at member
  · rename_i going equation
    rw [equation] at followed
    dsimp only at member
    split at member
    · rcases List.mem_append.mp member with old | new
      · exact followed thread old
      · exact entered.threads thread (List.mem_append_left _ new)
    · rcases List.mem_append.mp member with old | new
      · exact followed thread old
      · exact entered.threads thread new
  · rename_i result
    exact followed thread member

/-- What the threads lead on to begins with the first reading of theirs. -/
theorem follow_readings (simple : tree.Simple) (before : Option Char) (text : List Char)
    (index : Nat) (threads : List Thread) :
    (∀ thread ∈ threads, tree.HasPlace 0 thread.place) →
      (tree.reachedReadings before text index
          (tree.follow ⟨before, text.head?, index⟩ threads)).head?
        = (threads.flatMap fun thread =>
            tree.readingsAfter 0 thread.place (thread.path.reading before text index)).head? := by
  induction threads with
  | nil => exact fun _ => rfl
  | cons thread threads inductionHypothesis =>
    intro inside
    have later := inductionHypothesis fun other among => inside other (List.mem_cons_of_mem _ among)
    have ways := simple.resumesReadings before text index 0
      thread.place { thread.path with passed := .empty } (inside thread List.mem_cons_self)
      (fun number _ _ => Marks.contains_empty number)
    rw [reading_passed] at ways
    rw [List.flatMap_cons, List.head?_append, ← later, ← ways, follow]
    dsimp only
    split
    · rename_i path through
      simp [reachedReadings, Ways.readings, through]
    · rename_i through
      rw [Ways.readings_of_through_none through]
      simp [reachedReadings, List.head?_append]

/-- What is led on to begins with the first reading of the threads and of a new match. -/
theorem advance_readings (simple : tree.Simple) (before : Option Char) (text : List Char)
    (index : Nat) (fresh : Bool) {threads : List Thread}
    (inside : ∀ thread ∈ threads, tree.HasPlace 0 thread.place) :
    (tree.reachedReadings before text index
        (tree.advance ⟨before, text.head?, index⟩ fresh threads)).head?
      = ((threads.flatMap fun thread =>
          tree.readingsAfter 0 thread.place (thread.path.reading before text index))
          ++ if fresh then tree.readings ⟨before, text, index, .begin index⟩ else []).head? := by
  have followed := simple.follow_readings before text index
    threads inside
  have entered := simple.entersReadings before text index 0
    (.begin index) (fun number _ _ => Marks.contains_empty number)
  rw [show (Path.begin index).reading before text index
    = ⟨before, text, index, .begin index⟩ from rfl] at entered
  rw [List.head?_append, ← followed]
  unfold advance
  cases reached : tree.follow ⟨before, text.head?, index⟩ threads with
  | mk going through =>
    cases fresh with
    | false => simp
    | true =>
      cases through with
      | some path => simp [reachedReadings]
      | none =>
        rw [if_pos rfl, ← entered]
        dsimp only
        split
        · rename_i path through
          simp [reachedReadings, Ways.readings, through]
        · rename_i through
          rw [Ways.readings_of_through_none through]
          simp [reachedReadings]

/-- A search that goes on finds the first reading of its threads, or of a match that begins. -/
theorem search_readings (simple : tree.Simple) (text : List Char) :
    ∀ (threads : List Thread) (best : Option Match) (before : Option Char) (index : Nat),
      (∀ thread ∈ threads, tree.HasPlace 0 thread.place) →
        tree.search true threads best before index text
          = (((threads.flatMap fun thread =>
                tree.readingsAfter 0 thread.place (thread.path.reading before text index))
              ++ if best.isNone && index == 0 then
                  tree.readings ⟨before, text, index, .begin index⟩
                else []).head?.map Reading.toMatch).or best := by
  induction text with
  | nil =>
    intro threads best before index inside
    have advanced := simple.advance_readings before [] index
      (best.isNone && index == 0) inside
    rw [← advanced, search_nil]
    unfold arrive
    simp only [Bool.not_true, Bool.or_false]
    cases reached : tree.advance ⟨before, none, index⟩ (best.isNone && index == 0) threads with
    | mk going through =>
      have nothing : going.flatMap (Thread.readings [] index (tree.readingsAfter 0)) = [] := by
        simp [Thread.readings]
      rw [List.head?_nil, reached, reachedReadings_match, nothing]
      rfl
  | cons c rest inductionHypothesis =>
    intro threads best before index inside
    have advanced := simple.advance_readings before (c :: rest) index
      (best.isNone && index == 0) inside
    have goingInside := simple.advance_inside ⟨before, some c, index⟩
      (best.isNone && index == 0) inside
    rw [← advanced, search_cons]
    unfold arrive
    simp only [Bool.not_true, Bool.or_false, Bool.or_true, Bool.and_true, List.head?_cons]
    cases reached : tree.advance ⟨before, some c, index⟩ (best.isNone && index == 0) threads with
    | mk going through =>
      rw [reached] at goingInside
      rw [reachedReadings_match]
      dsimp only
      split
      · rename_i none
        rw [List.isEmpty_iff.mp none]
        rfl
      · -- A thread that is left out stands at the place of an earlier one, which has readings
        -- if it has any.  So the first reading is kept.
        rw [inductionHypothesis _ _ _ _ fun thread member =>
          goingInside thread (Thread.mem_of_mem_distinct _ _ member)]
        rw [if_neg (by simp), List.append_nil, Thread.head?_distinct]
        · rfl
        · intro first second same none
          rw [← same]
          have samePlace : Reading.SamePlace (first.path.reading (some c) rest (index + 1))
              (second.path.reading (some c) rest (index + 1)) := ⟨rfl, rfl, rfl⟩
          exact (tree.readingsAfter_eq_nil_iff 0 first.place samePlace).mp none
        · intro thread marked
          rw [Marks.contains_empty] at marked
          cases marked

/-- The match of a simple tree from the start of a text is its first reading. -/
theorem find?_eq (simple : tree.Simple) (text : List Char) :
    tree.find? true text = (tree.readings (.start text)).head?.map Reading.toMatch := by
  unfold find?
  rw [simple.search_readings text [] none none 0 (fun _ member => nomatch member), Option.or_none]
  rfl

end Tree.Simple

/-! ## Patterns for the start of a text -/

/-- A tree that is matched at the start of a text only. -/
def Tree.atStart (body : Tree) : Tree :=
  .andThen (.check .textStart) body

/-- A pattern that is matched at the start of a text only. -/
def Pattern.atStart (body : Tree) (groupCount : Nat) : Pattern :=
  ⟨.atStart body, true, groupCount⟩

theorem Pattern.find?_atStart {body : Tree} (simple : body.Simple) (groupCount : Nat)
    (text : List Char) :
    (Pattern.atStart body groupCount).find? text
      = (body.readings (.start text)).head?.map Reading.toMatch := by
  have whole : body.atStart.Simple := .seq (.check .textStart) simple
  have start : body.atStart.readings (.start text) = body.readings (.start text) :=
    List.flatMap_singleton _ _
  rw [← start]
  exact whole.find?_eq text

end Highlighter
