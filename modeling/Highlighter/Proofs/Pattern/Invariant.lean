import Highlighter.Pattern.Matching

/-!
# What every way through a tree keeps

A way through a tree changes only where it passes a choice or a loop, and where
it enters or leaves a group.  A property of ways that these three keep is
therefore kept by all the ways that lead on from a place, whatever the tree and
however its places are numbered.

A way stops as a thread only at a place that takes the next character.  So what
is asked of the threads has to be shown only for a character that the tree can
take at all.
-/

set_option autoImplicit false

namespace Highlighter

/-- What is done to a way between two characters keeps `onPath`, where `index` characters come
before. -/
structure Path.Keeps (onPath : Path → Prop) (index : Nat) : Prop where
  pass : ∀ (path : Path) (passed : Marks), onPath path → onPath { path with passed }
  enterGroup : ∀ path : Path, onPath path → onPath (path.enterGroup index)
  leaveGroup : ∀ (path : Path) (group : Nat), onPath path → onPath (path.leaveGroup group index)

/-- Whether no place of a tree takes the character `c`. -/
def Tree.avoids (c : Char) : Tree → Bool
  | empty | check _ => true
  | literal text => !text.contains c
  | chars set => !set.contains c
  | seq _ first rest => first.avoids c && rest.avoids c
  | choice _ first rest => first.avoids c && rest.avoids c
  | group _ body => body.avoids c
  | loop _ _ body => body.avoids c
  | copies _ _ body => body.avoids c
  | upTo _ _ _ body => body.avoids c

namespace Ways

/-- The threads satisfy `onThread`, and the way through satisfies `onPath`. -/
structure All (onThread : Thread → Prop) (onPath : Path → Prop) (ways : Ways) : Prop where
  threads : ∀ thread ∈ ways.threads, onThread thread
  through : ∀ path, ways.through = some path → onPath path

section All
variable {onThread : Thread → Prop} {onPath : Path → Prop}

theorem All.none : Ways.none.All onThread onPath :=
  ⟨fun _ member => (nomatch member), fun _ equation => (nomatch equation)⟩

theorem All.pass {path : Path} (kept : onPath path) : (Ways.pass path).All onThread onPath := by
  refine ⟨fun _ member => (nomatch member), ?_⟩
  intro other equation
  cases equation
  exact kept

theorem All.take {place : Nat} {path : Path} (kept : onThread ⟨place, path⟩) :
    (Ways.take place path).All onThread onPath := by
  refine ⟨?_, fun _ equation => (nomatch equation)⟩
  intro thread member
  rw [List.mem_singleton.mp member]
  exact kept

theorem All.andThen {ways : Ways} {next : Path → Ways} (first : ways.All onThread onPath)
    (second : ∀ path, onPath path → (next path).All onThread onPath) :
    (ways.andThen next).All onThread onPath := by
  cases through : ways.through with
  | none =>
    simp only [Ways.andThen, through]
    exact first
  | some path =>
    have later := second path (first.through path through)
    simp only [Ways.andThen, through]
    refine ⟨?_, later.through⟩
    intro thread member
    simp only [Ways.threads, List.mem_append] at member
    rcases member with (own | own) | own | own
    · exact first.threads thread (List.mem_append_left _ own)
    · exact later.threads thread (List.mem_append_left _ own)
    · exact later.threads thread (List.mem_append_right _ own)
    · exact first.threads thread (List.mem_append_right _ own)

theorem All.orElse {ways others : Ways} (first : ways.All onThread onPath)
    (second : others.All onThread onPath) : (ways.orElse others).All onThread onPath := by
  cases through : ways.through with
  | none =>
    simp only [Ways.orElse, through]
    refine ⟨?_, second.through⟩
    intro thread member
    rcases List.mem_append.mp member with own | own
    · rcases List.mem_append.mp own with own | own
      · exact first.threads thread own
      · exact second.threads thread (List.mem_append_left _ own)
    · exact second.threads thread (List.mem_append_right _ own)
  | some path =>
    simp only [Ways.orElse, through]
    refine ⟨?_, fun other equation => first.through other (through.trans equation)⟩
    intro thread member
    rcases List.mem_append.mp member with own | own
    · exact first.threads thread (List.mem_append_left _ own)
    · rcases List.mem_append.mp own with own | own
      · exact first.threads thread (List.mem_append_right _ own)
      · exact second.threads thread own

end All

end Ways

namespace Tree

section Kept
variable {onThread : Thread → Prop} {onPath : Path → Prop} {site : Site}

/-- Where the tree can take the next character, each way that is kept may stop as a thread. -/
def MayStop (onThread : Thread → Prop) (onPath : Path → Prop) (site : Site) (tree : Tree) : Prop :=
  ∀ c, site.after = some c → tree.avoids c = false →
    ∀ place path, onPath path → onThread ⟨place, path⟩

theorem MayStop.of_avoids {tree part : Tree} (stops : MayStop onThread onPath site tree)
    (within : ∀ c, part.avoids c = false → tree.avoids c = false) :
    MayStop onThread onPath site part :=
  fun c next takes => stops c next (within c takes)

theorem MayStop.seq {width : Nat} {first rest : Tree}
    (stops : MayStop onThread onPath site (.seq width first rest)) :
    MayStop onThread onPath site first ∧ MayStop onThread onPath site rest :=
  ⟨stops.of_avoids fun c takes => by simp [avoids, takes],
    stops.of_avoids fun c takes => by simp [avoids, takes]⟩

theorem MayStop.choice {width : Nat} {first rest : Tree}
    (stops : MayStop onThread onPath site (.choice width first rest)) :
    MayStop onThread onPath site first ∧ MayStop onThread onPath site rest :=
  ⟨stops.of_avoids fun c takes => by simp [avoids, takes],
    stops.of_avoids fun c takes => by simp [avoids, takes]⟩

theorem takeChar_all {text : List Char} (stops : MayStop onThread onPath site (literal text))
    {c : Char} (member : c ∈ text) (place : Nat) {path : Path} (kept : onPath path) :
    (takeChar site c place path).All onThread onPath := by
  unfold takeChar
  split
  · rename_i next
    have takes : (literal text).avoids c = false := by simpa [avoids] using member
    exact .take (stops c (beq_iff_eq.mp next) takes place path kept)
  · exact .none

/-- Passing a choice or a loop leads to nothing, or to a way that is still kept. -/
theorem pass?_kept (keeps : Path.Keeps onPath site.index) {path passed : Path} {number : Nat}
    (kept : onPath path) (passes : path.pass? number = some passed) : onPath passed := by
  unfold Path.pass? at passes
  split at passes
  · cases passes
  · cases passes
    exact keeps.pass path _ kept

theorem anotherRound_all (keeps : Path.Keeps onPath site.index) (greedy : Bool) (number : Nat)
    {enterBody : Path → Ways}
    (body : ∀ path, onPath path → (enterBody path).All onThread onPath)
    (path : Path) (kept : onPath path) :
    (anotherRound greedy number enterBody path).All onThread onPath := by
  unfold anotherRound
  cases passes : path.pass? number with
  | none => exact .none
  | some passed =>
    have passedKept := pass?_kept keeps kept passes
    have threads := (body passed passedKept).threads
    have through : ∀ other, some passed = some other → onPath other := by
      intro other equation
      cases equation
      exact passedKept
    cases greedy with
    | true => exact ⟨by simpa [Ways.threads] using threads, through⟩
    | false => exact ⟨by simpa [Ways.threads] using threads, through⟩

theorem enterCopies_all {enterBody : Nat → Path → Ways} (width : Nat)
    (body : ∀ base path, onPath path → (enterBody base path).All onThread onPath) (count : Nat) :
    ∀ base path, onPath path →
      (enterCopies enterBody width count base path).All onThread onPath := by
  induction count with
  | zero => exact fun _ _ kept => .pass kept
  | succ count inductionHypothesis =>
    intro base path kept
    exact .andThen (body base path kept) (inductionHypothesis (base + width))

theorem enterUpTo_all (keeps : Path.Keeps onPath site.index) {enterBody : Nat → Path → Ways}
    (greedy : Bool) (width : Nat)
    (body : ∀ base path, onPath path → (enterBody base path).All onThread onPath) (count : Nat) :
    ∀ base path, onPath path →
      (enterUpTo enterBody greedy width count base path).All onThread onPath := by
  induction count with
  | zero => exact fun _ _ kept => .pass kept
  | succ count inductionHypothesis =>
    intro base path kept
    unfold enterUpTo
    cases passes : path.pass? base with
    | none => exact .none
    | some passed =>
      have passedKept := pass?_kept keeps kept passes
      have more := Ways.All.andThen (body (base + 1) passed passedKept)
        (inductionHypothesis (base + 1 + width))
      cases greedy with
      | true => exact more.orElse (.pass passedKept)
      | false => exact (Ways.All.pass passedKept).orElse more

/-- All ways into a tree are kept if the way to it is. -/
theorem enter_all (keeps : Path.Keeps onPath site.index) (tree : Tree) :
    MayStop onThread onPath site tree →
      ∀ base path, onPath path → (enter site tree base path).All onThread onPath := by
  induction tree with
  | empty => exact fun _ _ _ kept => .pass kept
  | literal text =>
    intro stops base path kept
    cases text with
    | nil => exact .pass kept
    | cons c rest => exact takeChar_all stops List.mem_cons_self base kept
  | chars set =>
    intro stops base path kept
    unfold enter
    cases next : site.after with
    | none => simpa using Ways.All.none
    | some c =>
      by_cases contained : set.contains c
      · have takes : (chars set).avoids c = false := by simp [avoids, contained]
        simpa [contained] using Ways.All.take (stops c next takes base path kept)
      · simpa [contained] using Ways.All.none
  | check assertion =>
    intro _ base path kept
    unfold enter
    split
    · exact .pass kept
    · exact .none
  | seq width first rest firstInduction restInduction =>
    intro stops base path kept
    obtain ⟨firstStops, restStops⟩ := stops.seq
    exact .andThen (firstInduction firstStops base path kept)
      (restInduction restStops (base + width))
  | choice width first rest firstInduction restInduction =>
    intro stops base path kept
    obtain ⟨firstStops, restStops⟩ := stops.choice
    unfold enter
    cases passes : path.pass? base with
    | none => exact .none
    | some passed =>
      have passedKept := pass?_kept keeps kept passes
      exact (firstInduction firstStops (base + 1) passed passedKept).orElse
        (restInduction restStops (base + 1 + width) passed passedKept)
  | group index body bodyInduction =>
    intro stops base path kept
    refine .andThen (bodyInduction stops base _ (keeps.enterGroup path kept)) ?_
    intro path kept
    exact .pass (keeps.leaveGroup path index kept)
  | loop greedy once body bodyInduction =>
    intro stops base path kept
    have again := anotherRound_all keeps greedy base (bodyInduction stops (base + 1))
    unfold enter
    cases once with
    | true => exact .andThen (bodyInduction stops (base + 1) path kept) again
    | false => exact again path kept
  | copies count width body bodyInduction =>
    intro stops base path kept
    exact enterCopies_all width (bodyInduction stops) count base path kept
  | upTo count greedy width body bodyInduction =>
    intro stops base path kept
    exact enterUpTo_all keeps greedy width (bodyInduction stops) count base path kept

/-- All ways on from a place of a tree are kept if the way to the place is. -/
theorem resume_all (keeps : Path.Keeps onPath site.index) (tree : Tree) :
    MayStop onThread onPath site tree →
      ∀ base place path, onPath path →
        (resume site tree base place path).All onThread onPath := by
  induction tree with
  | empty => exact fun _ _ _ _ _ => .none
  | literal text =>
    intro stops base place path kept
    unfold resume
    split
    · exact .pass kept
    · rename_i c rest remaining
      have member : c ∈ text :=
        List.mem_of_mem_drop (i := place - base + 1) (remaining ▸ List.mem_cons_self)
      exact takeChar_all stops member _ kept
  | chars set => exact fun _ _ _ _ kept => .pass kept
  | check assertion => exact fun _ _ _ _ _ => .none
  | seq width first rest firstInduction restInduction =>
    intro stops base place path kept
    obtain ⟨firstStops, restStops⟩ := stops.seq
    unfold resume
    split
    · exact .andThen (firstInduction firstStops base place path kept)
        (enter_all keeps rest restStops (base + width))
    · exact restInduction restStops (base + width) place path kept
  | choice width first rest firstInduction restInduction =>
    intro stops base place path kept
    obtain ⟨firstStops, restStops⟩ := stops.choice
    unfold resume
    split
    · exact firstInduction firstStops (base + 1) place path kept
    · exact restInduction restStops (base + 1 + width) place path kept
  | group index body bodyInduction =>
    intro stops base place path kept
    refine .andThen (bodyInduction stops base place path kept) ?_
    intro path kept
    exact .pass (keeps.leaveGroup path index kept)
  | loop greedy once body bodyInduction =>
    intro stops base place path kept
    exact .andThen (bodyInduction stops (base + 1) place path kept)
      (anotherRound_all keeps greedy base (enter_all keeps body stops (base + 1)))
  | copies count width body bodyInduction =>
    intro stops base place path kept
    exact .andThen (bodyInduction stops _ place path kept)
      (enterCopies_all width (enter_all keeps body stops) _ _)
  | upTo count greedy width body bodyInduction =>
    intro stops base place path kept
    exact .andThen (bodyInduction stops _ place path kept)
      (enterUpTo_all keeps greedy width (enter_all keeps body stops) _ _)

/-- All ways on from several threads are kept if the ways of the threads are. -/
theorem follow_all (keeps : Path.Keeps onPath site.index) {tree : Tree}
    (stops : MayStop onThread onPath site tree) (threads : List Thread)
    (kept : ∀ thread ∈ threads, onPath thread.path) :
    (∀ thread ∈ (tree.follow site threads).1, onThread thread) ∧
      ∀ path, (tree.follow site threads).2 = some path → onPath path := by
  induction threads with
  | nil => exact ⟨fun _ member => (nomatch member), fun _ equation => (nomatch equation)⟩
  | cons thread threads inductionHypothesis =>
    have own := resume_all keeps tree stops 0 thread.place { thread.path with passed := .empty }
      (keeps.pass _ _ (kept thread List.mem_cons_self))
    have others := inductionHypothesis fun other member =>
      kept other (List.mem_cons_of_mem _ member)
    unfold follow
    cases through : (tree.resume site 0 thread.place
        { thread.path with passed := .empty }).through with
    | some path =>
      simp only [through]
      refine ⟨fun other member => own.threads other (List.mem_append_left _ member), ?_⟩
      intro other equation
      exact own.through other (through.trans equation)
    | none =>
      simp only [through]
      refine ⟨?_, others.2⟩
      intro other member
      rcases List.mem_append.mp member with first | second
      · exact own.threads other first
      · exact others.1 other second

/-- All ways on from several threads and from the start of the tree are kept if the ways of the
threads and a new way are. -/
theorem advance_all (keeps : Path.Keeps onPath site.index) {tree : Tree}
    (stops : MayStop onThread onPath site tree) (fresh : Bool) (threads : List Thread)
    (kept : ∀ thread ∈ threads, onPath thread.path)
    (new : fresh = true → onPath (.begin site.index)) :
    (∀ thread ∈ (tree.advance site fresh threads).1, onThread thread) ∧
      ∀ path, (tree.advance site fresh threads).2 = some path → onPath path := by
  have followed := follow_all keeps stops threads kept
  unfold advance
  split
  · rename_i going result
    rw [result] at followed
    have entered := enter_all keeps tree stops 0 (.begin site.index) (new rfl)
    dsimp only
    split
    · rename_i path through
      refine ⟨?_, fun other equation => entered.through other (through.trans equation)⟩
      intro thread member
      rcases List.mem_append.mp member with first | second
      · exact followed.1 thread first
      · exact entered.threads thread (List.mem_append_left _ second)
    · refine ⟨?_, fun _ equation => (nomatch equation)⟩
      intro thread member
      rcases List.mem_append.mp member with first | second
      · exact followed.1 thread first
      · exact entered.threads thread second
  · exact followed

end Kept

end Tree

/-- Leaving out threads adds none. -/
theorem Thread.mem_of_mem_distinct {thread : Thread} (threads : List Thread) :
    ∀ seen, thread ∈ distinct seen threads → thread ∈ threads := by
  induction threads with
  | nil => exact fun _ member => nomatch member
  | cons first rest inductionHypothesis =>
    intro seen member
    unfold distinct at member
    split at member
    · exact List.mem_cons_of_mem _ (inductionHypothesis seen member)
    · rcases List.mem_cons.mp member with same | later
      · exact same ▸ List.mem_cons_self
      · exact List.mem_cons_of_mem _ (inductionHypothesis _ later)

end Highlighter
