import Highlighter.Proofs.Pattern.Readings
import Highlighter.Proofs.Pattern.Simple
import Highlighter.Proofs.Pattern.Spans

/-!
# What the ways through a tree stand for

The threads and the way through that are reached at a place of the text stand
for the readings of a simple tree, and their order is that of the readings.  A
thread stands for the readings of what is left of the tree after its place, and
the way through for the one reading that is complete.
-/

set_option autoImplicit false

namespace Highlighter

/-- What is recorded of a way, without the choices and loops passed since the last character. -/
def Path.fresh (path : Path) : Path := { path with passed := .empty }

/-- A way that has come to a place of the text. -/
def Path.reading (before : Option Char) (text : List Char) (index : Nat) (path : Path) : Reading :=
  ⟨before, text, index, path.fresh⟩

/-- The readings that a thread stands for, if `after` tells those from each place of the tree. -/
def Thread.readings (text : List Char) (index : Nat) (after : Nat → Reading → List Reading)
    (thread : Thread) : List Reading :=
  match text with
  | [] => []
  | c :: rest => after thread.place (thread.path.reading (some c) rest (index + 1))

/-- The readings that ways stand for, in order. -/
def Ways.readings (onward : Thread → List Reading) (here : Path → Reading) (ways : Ways) :
    List Reading :=
  ways.sooner.flatMap onward ++ (ways.through.map here).toList ++ ways.later.flatMap onward

namespace Ways

variable {onward : Thread → List Reading} {here : Path → Reading}

theorem readings_none : Ways.none.readings onward here = [] := rfl

theorem readings_pass (path : Path) : (pass path).readings onward here = [here path] := rfl

theorem readings_take (place : Nat) (path : Path) :
    (take place path).readings onward here = onward ⟨place, path⟩ := by
  simp [readings, take]

theorem readings_of_through_none {ways : Ways} (through : ways.through = .none) :
    ways.readings onward here = ways.threads.flatMap onward := by
  simp [readings, through, threads]

theorem pass_andThen (path : Path) (next : Path → Ways) : (pass path).andThen next = next path := by
  simp [pass, andThen]

theorem andThen_pass (ways : Ways) : ways.andThen pass = ways := by
  obtain ⟨sooner, through, later⟩ := ways
  cases through <;> simp [pass, andThen]

theorem readings_congr {other : Thread → List Reading} {ways : Ways}
    (same : ∀ thread ∈ ways.threads, onward thread = other thread) :
    ways.readings onward here = ways.readings other here := by
  have sooner : ways.sooner.flatMap onward = ways.sooner.flatMap other :=
    List.flatMap_congr fun thread member => same thread (List.mem_append_left _ member)
  have later : ways.later.flatMap onward = ways.later.flatMap other :=
    List.flatMap_congr fun thread member => same thread (List.mem_append_right _ member)
  unfold readings
  rw [sooner, later]

/-- One part after another: each reading of the first is read on. -/
theorem readings_andThen {ways : Ways} {next : Path → Ways} {first : Thread → List Reading}
    {continued : Reading → List Reading}
    (threads : ∀ thread ∈ ways.threads, onward thread = (first thread).flatMap continued)
    (through : ∀ path, ways.through = some path →
      (next path).readings onward here = continued (here path)) :
    (ways.andThen next).readings onward here = (ways.readings first here).flatMap continued := by
  have sooner : ways.sooner.flatMap onward = (ways.sooner.flatMap first).flatMap continued := by
    rw [List.flatMap_assoc]
    exact List.flatMap_congr fun thread member => threads thread (List.mem_append_left _ member)
  have later : ways.later.flatMap onward = (ways.later.flatMap first).flatMap continued := by
    rw [List.flatMap_assoc]
    exact List.flatMap_congr fun thread member => threads thread (List.mem_append_right _ member)
  cases passes : ways.through with
  | none =>
    rw [andThen_of_through_none passes]
    unfold readings
    rw [passes, sooner, later]
    simp
  | some path =>
    have rest := through path passes
    unfold readings at rest
    unfold andThen readings
    simp only [passes, List.flatMap_append, sooner, later, Option.map_some, Option.toList_some,
      List.flatMap_singleton]
    rw [← rest]
    simp only [List.append_assoc]

/-- Either of two: the readings of the first come before those of the second. -/
theorem readings_orElse {ways others : Ways}
    (apart : ways.through = .none ∨ others.through = .none) :
    (ways.orElse others).readings onward here
      = ways.readings onward here ++ others.readings onward here := by
  cases passes : ways.through with
  | none => simp [orElse, readings, passes, threads]
  | some path =>
    have othersThrough : others.through = .none := by
      rcases apart with own | other
      · rw [passes] at own
        cases own
      · exact other
    simp [orElse, readings, passes, othersThrough, threads]

end Ways

namespace Tree

open Reading (SamePlace)

section Places
variable {before : Option Char} {text : List Char} {index : Nat}

theorem readings_takeIf (accepts : Char → Bool) (place : Nat) (path : Path)
    (after : Nat → Reading → List Reading) :
    (if text.head?.any accepts then Ways.take place path else Ways.none).readings
        (Thread.readings text index after) (Path.reading before text index)
      = ((path.reading before text index).take accepts).flatMap (after place) := by
  cases text with
  | nil => rfl
  | cons c rest =>
    by_cases accepted : accepts c
    · simp [accepted, Ways.readings_take, Thread.readings, Reading.take, Path.reading, Path.fresh]
    · simp [accepted, Ways.readings_none, Reading.take, Path.reading]

theorem enterChars_readings (before : Option Char) (text : List Char) (index : Nat)
    (set : CharSet) (place : Nat) (path : Path) (after : Nat → Reading → List Reading) :
    (enter ⟨before, text.head?, index⟩ (chars set) place path).readings
        (Thread.readings text index after) (Path.reading before text index)
      = ((path.reading before text index).take set.contains).flatMap (after place) :=
  readings_takeIf set.contains place path after

theorem takeChar_readings (c : Char) (place : Nat) (path : Path)
    (after : Nat → Reading → List Reading) :
    (takeChar ⟨before, text.head?, index⟩ c place path).readings
        (Thread.readings text index after) (Path.reading before text index)
      = ((path.reading before text index).take (· == c)).flatMap (after place) := by
  have condition : (text.head? == some c) = text.head?.any (· == c) := by
    cases text.head? <;> rfl
  unfold takeChar
  simp only [condition]
  exact readings_takeIf (· == c) place path after

/-- The threads of a part, seen from the tree that it is a part of. -/
theorem threads_readings {tree : Tree} {base : Nat} {old : Path} {ways : Ways}
    (inside : ways.Inside tree base old) {after other : Nat → Reading → List Reading}
    (same : ∀ place reading, tree.HasPlace base place →
      after place reading = other place reading) :
    ∀ thread ∈ ways.threads,
      Thread.readings text index after thread = Thread.readings text index other thread := by
  intro thread member
  cases text with
  | nil => rfl
  | cons c rest => exact same _ _ (inside.threads thread member)

/-- The threads of a part that another part follows. -/
theorem threads_readings_continued {tree : Tree} {base : Nat} {old : Path} {ways : Ways}
    (inside : ways.Inside tree base old) {after other : Nat → Reading → List Reading}
    {continued : Reading → List Reading}
    (same : ∀ place reading, tree.HasPlace base place →
      after place reading = (other place reading).flatMap continued) :
    ∀ thread ∈ ways.threads,
      Thread.readings text index after thread
        = (Thread.readings text index other thread).flatMap continued := by
  intro thread member
  cases text with
  | nil => rfl
  | cons c rest => exact same _ _ (inside.threads thread member)

@[simp] theorem reading_passed (path : Path) (passed : Marks) :
    Path.reading before text index { path with passed } = path.reading before text index := rfl

theorem reading_leaveGroup (path : Path) (group : Nat) :
    (path.leaveGroup group index).reading before text index
      = (path.reading before text index).leaveGroup group := by
  obtain ⟨start, opened, groups, passed⟩ := path
  cases opened <;> rfl

/-- Another round of a loop over a set, or its end. -/
theorem anotherRound_readings (greedy once : Bool) (set : CharSet) (base : Nat) (path : Path)
    (unpassed : path.Unpassed base (base + 2)) :
    (anotherRound greedy base
        (enter ⟨before, text.head?, index⟩ (chars set) (base + 1)) path).readings
        (Thread.readings text index ((loop greedy once (chars set)).readingsAfter base))
        (Path.reading before text index)
      = (path.reading before text index).anyNumber greedy (Reading.take set.contains) := by
  have body := enterChars_readings before text index set (base + 1)
    { path with passed := path.passed.insert base }
    ((loop greedy once (chars set)).readingsAfter base)
  rw [Ways.readings_of_through_none (enter_through_of_isConsuming (chars set) _ rfl _ _),
    reading_passed] at body
  have onward : (loop greedy once (chars set)).readingsAfter base (base + 1)
      = Reading.anyNumber greedy (Reading.take set.contains) := by
    funext reading
    simp [readingsAfter, readings]
  rw [onward] at body
  rw [Reading.anyNumber_take]
  unfold anotherRound
  rw [path.pass?_unpassed unpassed (Nat.le_refl base) (by omega)]
  cases greedy with
  | true => simpa [Ways.readings] using body
  | false => simpa [Ways.readings] using body

/-- The ways of a part, seen from the tree that it is a part of. -/
theorem part_readings {tree : Tree} {base : Nat} {old : Path} {ways : Ways}
    (inside : ways.Inside tree base old) {after : Nat → Reading → List Reading}
    (same : ∀ place reading, tree.HasPlace base place →
      after place reading = tree.readingsAfter base place reading) {here : Path → Reading} :
    ways.readings (Thread.readings text index after) here
      = ways.readings (Thread.readings text index (tree.readingsAfter base)) here :=
  Ways.readings_congr (threads_readings inside same)

section Optional
variable (greedy : Bool) (body : Tree) {base place : Nat}
  (range : base + 1 ≤ place ∧ place < base + 1 + body.width)
include range

theorem copy_optional : (place - base) / (1 + body.width) = 0 :=
  Nat.div_eq_of_lt (by omega)

theorem readingsAfter_optional (reading : Reading) :
    (upTo 1 greedy body.width body).readingsAfter base place reading
      = body.readingsAfter (base + 1) place reading := by
  rw [readingsAfter]
  simp only [copy_optional body range, Nat.zero_mul, Nat.add_zero]
  exact List.flatMap_singleton' _

theorem resume_optional {site : Site} (path : Path) :
    resume site (upTo 1 greedy body.width body) base place path
      = resume site body (base + 1) place path := by
  rw [resume]
  simp only [copy_optional body range, Nat.zero_mul, Nat.add_zero]
  exact Ways.andThen_pass _

end Optional

/-! ## What is left of a tree within one of its parts -/

section Parts
variable {first rest : Tree} {base place : Nat}

theorem Simple.readingsAfter_seq_first (simple : first.Simple)
    (inside : first.HasPlace base place) (reading : Reading) :
    (Tree.seq first.width first rest).readingsAfter base place reading
      = (first.readingsAfter base place reading).flatMap rest.readings := by
  have range := simple.hasPlace_range base place inside
  rw [readingsAfter, if_pos range.2]

theorem Simple.readingsAfter_seq_rest (simple : rest.Simple)
    (inside : rest.HasPlace (base + first.width) place) (reading : Reading) :
    (Tree.seq first.width first rest).readingsAfter base place reading
      = rest.readingsAfter (base + first.width) place reading := by
  have range := simple.hasPlace_range _ place inside
  rw [readingsAfter, if_neg (by omega)]

theorem Simple.readingsAfter_choice_first (simple : first.Simple)
    (inside : first.HasPlace (base + 1) place) (reading : Reading) :
    (Tree.choice first.width first rest).readingsAfter base place reading
      = first.readingsAfter (base + 1) place reading := by
  have range := simple.hasPlace_range _ place inside
  rw [readingsAfter, if_pos range.2]

theorem Simple.readingsAfter_choice_rest (simple : rest.Simple)
    (inside : rest.HasPlace (base + 1 + first.width) place) (reading : Reading) :
    (Tree.choice first.width first rest).readingsAfter base place reading
      = rest.readingsAfter (base + 1 + first.width) place reading := by
  have range := simple.hasPlace_range _ place inside
  rw [readingsAfter, if_neg (by omega)]

end Parts

/-! ## The ways into a tree -/

/-- The ways into a tree stand for its readings. -/
def EntersReadings (before : Option Char) (text : List Char) (index : Nat) (tree : Tree) : Prop :=
  ∀ base path, path.Unpassed base (base + tree.width) →
    (enter ⟨before, text.head?, index⟩ tree base path).readings
        (Thread.readings text index (tree.readingsAfter base)) (Path.reading before text index)
      = tree.readings (path.reading before text index)

/-- The second part of a row is entered with what the first has left unpassed. -/
theorem seq_rest_readings {first rest : Tree} (restSimple : rest.Simple)
    (restEnters : rest.EntersReadings before text index) {base : Nat} {path middle : Path}
    (unpassed : path.Unpassed base (base + (seq first.width first rest).width))
    (within : path.PassedWithin base (base + first.width) middle) :
    (enter ⟨before, text.head?, index⟩ rest (base + first.width) middle).readings
        (Thread.readings text index ((seq first.width first rest).readingsAfter base))
        (Path.reading before text index)
      = rest.readings (middle.reading before text index) := by
  have later : middle.Unpassed (base + first.width) (base + first.width + rest.width) := by
    refine Path.Unpassed.after ?_ (Nat.le_add_right _ _) within
    exact unpassed.narrow (Nat.le_refl _) (by rw [width]; omega)
  rw [part_readings (restSimple.enter_inside _ _ middle)
    fun place reading inside => restSimple.readingsAfter_seq_rest inside reading]
  exact restEnters _ middle later

theorem EntersReadings.seq {first rest : Tree} (firstSimple : first.Simple)
    (restSimple : rest.Simple) (firstEnters : first.EntersReadings before text index)
    (restEnters : rest.EntersReadings before text index) :
    (Tree.seq first.width first rest).EntersReadings before text index := by
  intro base path unpassed
  have firstInside := firstSimple.enter_inside ⟨before, text.head?, index⟩ base path
  unfold enter readings
  rw [← firstEnters base path (unpassed.narrow (Nat.le_refl _) (by rw [width]; omega))]
  refine Ways.readings_andThen (threads_readings_continued firstInside ?_) ?_
  · exact fun place reading inside => firstSimple.readingsAfter_seq_first inside reading
  · intro middle passes
    exact seq_rest_readings restSimple restEnters unpassed (firstInside.through middle passes)

theorem EntersReadings.choice {first rest : Tree} (firstSimple : first.Simple)
    (restSimple : rest.Simple) (consuming : (first.isConsuming || rest.isConsuming) = true)
    (firstEnters : first.EntersReadings before text index)
    (restEnters : rest.EntersReadings before text index) :
    (Tree.choice first.width first rest).EntersReadings before text index := by
  intro base path unpassed
  have later : Path.Unpassed { path with passed := path.passed.insert base } (base + 1)
      (base + (Tree.choice first.width first rest).width) :=
    unpassed.after (Nat.le_succ _) (path.passedWithin_insert (Nat.le_refl _) (Nat.lt_succ_self _))
  unfold enter readings
  rw [path.pass?_unpassed unpassed (Nat.le_refl _) (by rw [width]; omega)]
  dsimp only
  -- One of the two takes a character first, so they cannot both be passed through here.
  rw [Ways.readings_orElse, part_readings (firstSimple.enter_inside _ _ _),
    part_readings (restSimple.enter_inside _ _ _), firstEnters, restEnters]
  · rfl
  · exact later.narrow (by omega) (by rw [width]; omega)
  · exact later.narrow (by omega) (by rw [width]; omega)
  · exact fun place reading inside => restSimple.readingsAfter_choice_rest inside reading
  · exact fun place reading inside => firstSimple.readingsAfter_choice_first inside reading
  · rcases Bool.or_eq_true_iff.mp consuming with own | own
    · exact .inl (enter_through_of_isConsuming first _ own _ _)
    · exact .inr (enter_through_of_isConsuming rest _ own _ _)

theorem EntersReadings.group {body : Tree} (group : Nat) (bodySimple : body.Simple)
    (bodyEnters : body.EntersReadings before text index) :
    (Tree.group group body).EntersReadings before text index := by
  intro base path unpassed
  have inGroup : (path.enterGroup index).reading before text index
      = (path.reading before text index).enterGroup := rfl
  have bodyReadings := bodyEnters base (path.enterGroup index) unpassed
  unfold enter readings
  rw [List.map_eq_flatMap, ← inGroup, ← bodyReadings]
  refine Ways.readings_andThen (threads_readings_continued (bodySimple.enter_inside _ _ _) ?_) ?_
  · intro place reading _
    rw [readingsAfter, List.map_eq_flatMap]
  · intro middle _
    rw [Ways.readings_pass, reading_leaveGroup]

theorem EntersReadings.loop (greedy once : Bool) (set : CharSet) :
    (Tree.loop greedy once (chars set)).EntersReadings before text index := by
  intro base path unpassed
  unfold enter readings
  cases once with
  | false => exact anotherRound_readings greedy false set base path unpassed
  | true =>
    have inside := (Simple.chars set).enter_inside ⟨before, text.head?, index⟩ (base + 1) path
    have body := enterChars_readings before text index set
      (base + 1) path ((Tree.chars set).readingsAfter (base + 1))
    rw [show (Tree.chars set).readingsAfter (base + 1) (base + 1) = fun one => [one] from rfl,
      List.flatMap_singleton'] at body
    rw [if_pos rfl, if_pos rfl]
    unfold readings
    rw [← body]
    refine Ways.readings_andThen (threads_readings_continued inside fun _ _ _ => rfl) ?_
    intro middle passes
    rw [enter_through_of_isConsuming (Tree.chars set) _ rfl] at passes
    cases passes

theorem EntersReadings.optional {body : Tree} (greedy : Bool) (bodySimple : body.Simple)
    (consuming : body.isConsuming = true) (bodyEnters : body.EntersReadings before text index) :
    (upTo 1 greedy body.width body).EntersReadings before text index := by
  intro base path unpassed
  have later : Path.Unpassed { path with passed := path.passed.insert base } (base + 1)
      (base + (upTo 1 greedy body.width body).width) :=
    unpassed.after (Nat.le_succ _) (path.passedWithin_insert (Nat.le_refl _) (Nat.lt_succ_self _))
  have noThrough := enter_through_of_isConsuming body ⟨before, text.head?, index⟩
    consuming (base + 1) { path with passed := path.passed.insert base }
  have more : (enter ⟨before, text.head?, index⟩ body (base + 1)
        { path with passed := path.passed.insert base }).readings
      (Thread.readings text index ((upTo 1 greedy body.width body).readingsAfter base))
      (Path.reading before text index) = body.readings (path.reading before text index) := by
    rw [part_readings (bodySimple.enter_inside _ _ _), bodyEnters]
    · rfl
    · exact later.narrow (Nat.le_refl _) (by rw [width]; omega)
    · intro place reading inside
      exact readingsAfter_optional greedy body (bodySimple.hasPlace_range _ place inside) reading
  have once : (path.reading before text index).upTo greedy body.readings 1
      = if greedy then body.readings (path.reading before text index) ++
          [path.reading before text index]
        else path.reading before text index ::
          body.readings (path.reading before text index) := by
    cases greedy <;> simp [Reading.upTo]
  unfold enter enterUpTo readings
  rw [path.pass?_unpassed unpassed (Nat.le_refl _) (by rw [width]; omega), once]
  dsimp only
  rw [Ways.andThen_of_through_none noThrough]
  cases greedy with
  | true =>
    rw [if_pos rfl, if_pos rfl, Ways.readings_orElse (.inl noThrough), more]
    rfl
  | false =>
    rw [if_neg Bool.false_ne_true, if_neg Bool.false_ne_true,
      Ways.readings_orElse (.inr noThrough), more]
    rfl

theorem Simple.entersReadings {tree : Tree} (simple : tree.Simple) (before : Option Char)
    (text : List Char) (index : Nat) : tree.EntersReadings before text index := by
  induction simple with
  | empty => exact fun _ _ _ => rfl
  | literal literal =>
    intro base path _
    cases literal with
    | nil => rfl
    | cons c rest =>
      unfold enter readings
      rw [takeChar_readings]
      simp [readingsAfter, Reading.takeText]
  | chars set =>
    intro base path _
    rw [enterChars_readings]
    simp [readingsAfter, readings]
  | check assertion =>
    intro base path _
    unfold enter readings
    by_cases holds : assertion.holds before text.head?
    · simp [Path.reading, holds, Ways.readings_pass]
    · simp [Path.reading, holds, Ways.readings_none]
  | seq firstSimple restSimple firstInduction restInduction =>
    exact .seq firstSimple restSimple firstInduction restInduction
  | choice firstSimple restSimple consuming firstInduction restInduction =>
    exact .choice firstSimple restSimple consuming firstInduction restInduction
  | group index bodySimple bodyInduction => exact .group index bodySimple bodyInduction
  | loop greedy once set => exact .loop greedy once set
  | optional greedy bodySimple consuming bodyInduction =>
    exact .optional greedy bodySimple consuming bodyInduction

/-! ## The ways on from a place of a tree -/

/-- The ways on from a place stand for the readings of what is left of the tree. -/
def ResumesReadings (before : Option Char) (text : List Char) (index : Nat) (tree : Tree) :
    Prop :=
  ∀ base place path, tree.HasPlace base place → path.Unpassed base (base + tree.width) →
    (resume ⟨before, text.head?, index⟩ tree base place path).readings
        (Thread.readings text index (tree.readingsAfter base)) (Path.reading before text index)
      = tree.readingsAfter base place (path.reading before text index)

theorem resumesReadings_literal (literal : List Char) :
    (Tree.literal literal).ResumesReadings before text index := by
  intro base place path inside _
  unfold resume
  split
  · rename_i finished
    rw [readingsAfter, finished]
    rfl
  · rename_i c rest remaining
    have next : literal.drop (place + 1 - base + 1) = rest := by
      have following := congrArg (List.drop 1) remaining
      have above := inside.1
      rw [List.drop_drop] at following
      rw [show place + 1 - base + 1 = place - base + 1 + 1 from by omega]
      exact following
    have after : (Tree.literal literal).readingsAfter base (place + 1)
        = Reading.takeText rest := by
      funext reading
      rw [readingsAfter, next]
    rw [takeChar_readings, after, readingsAfter, remaining]
    rfl

theorem ResumesReadings.seq {first rest : Tree} (firstSimple : first.Simple)
    (restSimple : rest.Simple) (firstResumes : first.ResumesReadings before text index)
    (restResumes : rest.ResumesReadings before text index) :
    (Tree.seq first.width first rest).ResumesReadings before text index := by
  intro base place path inside unpassed
  unfold resume
  rcases inside with inside | inside
  · have range := firstSimple.hasPlace_range base place inside
    have firstInside := firstSimple.resume_inside ⟨before, text.head?, index⟩
      base place path inside
    have firstReadings := firstResumes base place path inside
      (unpassed.narrow (Nat.le_refl _) (by rw [width]; omega))
    rw [if_pos range.2, firstSimple.readingsAfter_seq_first inside, ← firstReadings]
    refine Ways.readings_andThen (threads_readings_continued firstInside ?_) ?_
    · exact fun other reading within => firstSimple.readingsAfter_seq_first within reading
    · intro middle passes
      exact seq_rest_readings restSimple (restSimple.entersReadings before text index) unpassed
        (firstInside.through middle passes)
  · have range := restSimple.hasPlace_range _ place inside
    rw [if_neg (by omega), restSimple.readingsAfter_seq_rest inside,
      part_readings (restSimple.resume_inside _ _ _ _ inside)
        fun other reading within => restSimple.readingsAfter_seq_rest within reading]
    exact restResumes _ place path inside
      (unpassed.narrow (Nat.le_add_right _ _) (by rw [width]; omega))

theorem ResumesReadings.choice {first rest : Tree} (firstSimple : first.Simple)
    (restSimple : rest.Simple) (firstResumes : first.ResumesReadings before text index)
    (restResumes : rest.ResumesReadings before text index) :
    (Tree.choice first.width first rest).ResumesReadings before text index := by
  intro base place path inside unpassed
  unfold resume
  rcases inside with inside | inside
  · have range := firstSimple.hasPlace_range _ place inside
    rw [if_pos range.2, firstSimple.readingsAfter_choice_first inside,
      part_readings (firstSimple.resume_inside _ _ _ _ inside)
        fun other reading within => firstSimple.readingsAfter_choice_first within reading]
    exact firstResumes _ place path inside
      (unpassed.narrow (Nat.le_succ _) (by rw [width]; omega))
  · have range := restSimple.hasPlace_range _ place inside
    rw [if_neg (by omega), restSimple.readingsAfter_choice_rest inside,
      part_readings (restSimple.resume_inside _ _ _ _ inside)
        fun other reading within => restSimple.readingsAfter_choice_rest within reading]
    exact restResumes _ place path inside
      (unpassed.narrow (by omega) (by rw [width]; omega))

theorem ResumesReadings.group {body : Tree} (group : Nat) (bodySimple : body.Simple)
    (bodyResumes : body.ResumesReadings before text index) :
    (Tree.group group body).ResumesReadings before text index := by
  intro base place path inside unpassed
  unfold resume
  conv_rhs => rw [readingsAfter]
  rw [List.map_eq_flatMap, ← bodyResumes base place path inside unpassed]
  refine Ways.readings_andThen
    (threads_readings_continued (bodySimple.resume_inside _ _ _ _ inside) ?_) ?_
  · intro other reading _
    rw [readingsAfter, List.map_eq_flatMap]
  · intro middle _
    rw [Ways.readings_pass, reading_leaveGroup]

theorem ResumesReadings.optional {body : Tree} (greedy : Bool) (bodySimple : body.Simple)
    (bodyResumes : body.ResumesReadings before text index) :
    (upTo 1 greedy body.width body).ResumesReadings before text index := by
  intro base place path inside unpassed
  have bodyPlace := hasPlace_optional.mp inside
  have only : ∀ other reading, body.HasPlace (base + 1) other →
      (upTo 1 greedy body.width body).readingsAfter base other reading
        = body.readingsAfter (base + 1) other reading :=
    fun other reading within =>
      readingsAfter_optional greedy body (bodySimple.hasPlace_range _ other within) reading
  rw [resume_optional greedy body (bodySimple.hasPlace_range _ place bodyPlace) path,
    only place _ bodyPlace, part_readings (bodySimple.resume_inside _ _ _ _ bodyPlace) only]
  exact bodyResumes (base + 1) place path bodyPlace
    (unpassed.narrow (Nat.le_succ _) (by rw [width]; omega))

theorem Simple.resumesReadings {tree : Tree} (simple : tree.Simple) (before : Option Char)
    (text : List Char) (index : Nat) : tree.ResumesReadings before text index := by
  induction simple with
  | empty => exact fun _ _ _ inside => inside.elim
  | literal literal => exact resumesReadings_literal literal
  | chars set => exact fun _ _ _ _ _ => rfl
  | check assertion => exact fun _ _ _ inside => inside.elim
  | seq firstSimple restSimple firstInduction restInduction =>
    exact .seq firstSimple restSimple firstInduction restInduction
  | choice firstSimple restSimple _ firstInduction restInduction =>
    exact .choice firstSimple restSimple firstInduction restInduction
  | group index bodySimple bodyInduction => exact .group index bodySimple bodyInduction
  | loop greedy once set =>
    intro base place path inside unpassed
    unfold resume
    conv_rhs => rw [readingsAfter]
    rw [resume, Ways.pass_andThen, readingsAfter, List.flatMap_singleton]
    exact anotherRound_readings greedy once set base path unpassed
  | optional greedy bodySimple _ bodyInduction =>
    exact .optional greedy bodySimple bodyInduction

end Places

end Tree

end Highlighter
