import Mathlib.Tactic.Common
import Highlighter.Proofs.Pattern.Invariant

/-!
# Simple trees

In a simple tree the numbers fit together, only sets of characters are looped,
and where a choice or an option is passed without a character, that is one way
at most.  Threads then stand at places of the tree, and a way has passed only
choices and loops of the part that it has gone through.
-/

set_option autoImplicit false

namespace Highlighter

namespace Tree

/-- Whether every way through takes a character at least. -/
def isConsuming : Tree → Bool
  | empty | check _ => false
  | literal text => !text.isEmpty
  | chars _ => true
  | seq _ first rest => first.isConsuming || rest.isConsuming
  | choice _ first rest => first.isConsuming && rest.isConsuming
  | group _ body => body.isConsuming
  | loop _ once body => once && body.isConsuming
  | copies count _ body => count != 0 && body.isConsuming
  | upTo _ _ _ _ => false

inductive Simple : Tree → Prop where
  | empty : Simple .empty
  | literal (text : List Char) : Simple (.literal text)
  | chars (set : CharSet) : Simple (.chars set)
  | check (assertion : Assertion) : Simple (.check assertion)
  | seq {first rest : Tree} (firstSimple : Simple first) (restSimple : Simple rest) :
      Simple (.seq first.width first rest)
  | choice {first rest : Tree} (firstSimple : Simple first) (restSimple : Simple rest)
      (consuming : (first.isConsuming || rest.isConsuming) = true) :
      Simple (.choice first.width first rest)
  | group {body : Tree} (index : Nat) (bodySimple : Simple body) : Simple (.group index body)
  | loop (greedy once : Bool) (set : CharSet) : Simple (.loop greedy once (.chars set))
  | optional {body : Tree} (greedy : Bool) (bodySimple : Simple body)
      (consuming : body.isConsuming = true) : Simple (.upTo 1 greedy body.width body)

/-- Whether a tree is simple, so that a given tree can be checked. -/
def isSimple : Tree → Bool
  | empty | literal _ | chars _ | check _ | loop _ _ (chars _) => true
  | seq width first rest => width == first.width && (first.isSimple && rest.isSimple)
  | choice width first rest =>
    width == first.width
      && ((first.isConsuming || rest.isConsuming) && (first.isSimple && rest.isSimple))
  | group _ body => body.isSimple
  | loop _ _ _ | copies _ _ _ => false
  | upTo count _ width body =>
    count == 1 && (width == body.width && (body.isConsuming && body.isSimple))

theorem Simple.of_isSimple {tree : Tree} : tree.isSimple = true → tree.Simple := by
  fun_induction isSimple tree with
  | case1 => exact fun _ => .empty
  | case2 text => exact fun _ => .literal text
  | case3 set => exact fun _ => .chars set
  | case4 assertion => exact fun _ => .check assertion
  | case5 greedy once set => exact fun _ => .loop greedy once set
  | case6 width first rest firstInduction restInduction =>
    intro accepted
    simp only [Bool.and_eq_true, beq_iff_eq] at accepted
    obtain ⟨rfl, firstSimple, restSimple⟩ := accepted
    exact .seq (firstInduction firstSimple) (restInduction restSimple)
  | case7 width first rest firstInduction restInduction =>
    intro accepted
    simp only [Bool.and_eq_true, beq_iff_eq] at accepted
    obtain ⟨rfl, consuming, firstSimple, restSimple⟩ := accepted
    exact .choice (firstInduction firstSimple) (restInduction restSimple) consuming
  | case8 index body bodyInduction => exact fun accepted => .group index (bodyInduction accepted)
  | case9 => exact fun accepted => nomatch accepted
  | case10 => exact fun accepted => nomatch accepted
  | case11 count greedy width body bodyInduction =>
    intro accepted
    simp only [Bool.and_eq_true, beq_iff_eq] at accepted
    obtain ⟨rfl, rfl, consuming, bodySimple⟩ := accepted
    exact .optional greedy (bodyInduction bodySimple) consuming

/-- Whether `place` is a place of a tree whose numbers begin with `base`. -/
def HasPlace : Tree → Nat → Nat → Prop
  | empty, _, _ | check _, _, _ => False
  | literal text, base, place => base ≤ place ∧ place < base + text.length
  | chars _, base, place => place = base
  | seq width first rest, base, place =>
    first.HasPlace base place ∨ rest.HasPlace (base + width) place
  | choice width first rest, base, place =>
    first.HasPlace (base + 1) place ∨ rest.HasPlace (base + 1 + width) place
  | group _ body, base, place => body.HasPlace base place
  | loop _ _ body, base, place => body.HasPlace (base + 1) place
  | copies count width body, base, place =>
    ∃ copy < count, body.HasPlace (base + copy * width) place
  | upTo count _ width body, base, place =>
    ∃ copy < count, body.HasPlace (base + copy * (1 + width) + 1) place

theorem hasPlace_optional {greedy : Bool} {width base place : Nat} {body : Tree} :
    (upTo 1 greedy width body).HasPlace base place ↔ body.HasPlace (base + 1) place := by
  constructor
  · rintro ⟨copy, first, inside⟩
    obtain rfl : copy = 0 := by omega
    rwa [Nat.zero_mul, Nat.add_zero] at inside
  · intro inside
    refine ⟨0, Nat.one_pos, ?_⟩
    rwa [Nat.zero_mul, Nat.add_zero]

theorem Simple.hasPlace_range {tree : Tree} (simple : tree.Simple) : ∀ base place,
    tree.HasPlace base place → base ≤ place ∧ place < base + tree.width := by
  induction simple with
  | empty => exact fun _ _ inside => inside.elim
  | literal text => exact fun _ _ inside => inside
  | chars set =>
    rintro base place rfl
    exact ⟨Nat.le_refl _, Nat.lt_succ_self _⟩
  | check assertion => exact fun _ _ inside => inside.elim
  | seq _ _ firstInduction restInduction =>
    intro base place inside
    rw [width]
    rcases inside with inside | inside
    · have range := firstInduction base place inside
      omega
    · have range := restInduction _ place inside
      omega
  | choice _ _ _ firstInduction restInduction =>
    intro base place inside
    rw [width]
    rcases inside with inside | inside
    · have range := firstInduction _ place inside
      omega
    · have range := restInduction _ place inside
      omega
  | group index _ bodyInduction => exact bodyInduction
  | loop greedy once set =>
    rintro base place rfl
    rw [width, width]
    omega
  | optional greedy _ _ bodyInduction =>
    intro base place inside
    have range := bodyInduction (base + 1) place (hasPlace_optional.mp inside)
    rw [width]
    omega

end Tree

/-! ## Choices and loops that have been passed -/

namespace Path

/-- No choice and no loop of a stretch of numbers has been passed. -/
def Unpassed (path : Path) (low high : Nat) : Prop :=
  ∀ number, low ≤ number → number < high → path.passed.contains number = false

/-- What `path` has passed, it has passed before with `old` or in a stretch of numbers. -/
def PassedWithin (old : Path) (low high : Nat) (path : Path) : Prop :=
  ∀ number, path.passed.contains number = true →
    old.passed.contains number = true ∨ (low ≤ number ∧ number < high)

variable {path old passed : Path} {low high : Nat}

theorem PassedWithin.self (path : Path) (low high : Nat) : path.PassedWithin low high path :=
  fun _ marked => .inl marked

theorem PassedWithin.widen {wideLow wideHigh : Nat} (within : old.PassedWithin low high path)
    (lower : wideLow ≤ low) (upper : high ≤ wideHigh) :
    old.PassedWithin wideLow wideHigh path := by
  intro number marked
  rcases within number marked with before | ⟨above, below⟩
  · exact .inl before
  · exact .inr ⟨Nat.le_trans lower above, Nat.lt_of_lt_of_le below upper⟩

theorem PassedWithin.trans {older : Path} (first : older.PassedWithin low high old)
    (second : old.PassedWithin low high path) : older.PassedWithin low high path := by
  intro number marked
  rcases second number marked with before | range
  · exact first number before
  · exact .inr range

theorem Unpassed.narrow {narrowLow narrowHigh : Nat} (unpassed : path.Unpassed low high)
    (lower : low ≤ narrowLow) (upper : narrowHigh ≤ high) :
    path.Unpassed narrowLow narrowHigh :=
  fun number above below =>
    unpassed number (Nat.le_trans lower above) (Nat.lt_of_lt_of_le below upper)

/-- A stretch is still unpassed after a way through a part that comes before it. -/
theorem Unpassed.after {middle : Nat} (unpassed : old.Unpassed low high) (order : low ≤ middle)
    (within : old.PassedWithin low middle path) : path.Unpassed middle high := by
  intro number above below
  by_contra marked
  rcases within number (eq_true_of_ne_false marked) with before | range
  · rw [unpassed number (Nat.le_trans order above) below] at before
    cases before
  · omega

theorem pass?_eq_some {number : Nat} (passes : path.pass? number = some passed) :
    passed = { path with passed := path.passed.insert number } := by
  unfold pass? at passes
  split at passes
  · cases passes
  · exact (Option.some.inj passes).symm

theorem pass?_unpassed {number : Nat} (unpassed : path.Unpassed low high) (above : low ≤ number)
    (below : number < high) :
    path.pass? number = some { path with passed := path.passed.insert number } := by
  unfold pass?
  rw [unpassed number above below]
  rfl

theorem passedWithin_insert (path : Path) {number : Nat} (above : low ≤ number)
    (below : number < high) :
    path.PassedWithin low high { path with passed := path.passed.insert number } := by
  intro other marked
  rw [Marks.contains_insert, Bool.or_eq_true] at marked
  rcases marked with before | same
  · exact .inl before
  · rw [beq_iff_eq] at same
    subst same
    exact .inr ⟨above, below⟩

theorem PassedWithin.of_pass? {number : Nat} (passes : path.pass? number = some passed)
    (above : low ≤ number) (below : number < high) : path.PassedWithin low high passed := by
  rw [pass?_eq_some passes]
  exact path.passedWithin_insert above below

@[simp] theorem leaveGroup_passed (path : Path) (group index : Nat) :
    (path.leaveGroup group index).passed = path.passed := by
  unfold leaveGroup
  split <;> rfl

theorem PassedWithin.leaveGroup (within : old.PassedWithin low high path) (group index : Nat) :
    old.PassedWithin low high (path.leaveGroup group index) := by
  intro number marked
  rw [leaveGroup_passed] at marked
  exact within number marked

end Path

/-- The threads stand at places of a tree, and the way through has passed no number outside. -/
abbrev Ways.Inside (tree : Tree) (base : Nat) (old : Path) (ways : Ways) : Prop :=
  ways.All (fun thread => tree.HasPlace base thread.place)
    (old.PassedWithin base (base + tree.width))

/-- What is inside a part is inside a tree that has the places and the numbers of the part. -/
theorem Ways.Inside.widen {tree part : Tree} {base partBase : Nat} {old middle : Path}
    {ways : Ways} (inside : ways.Inside part partBase middle)
    (within : old.PassedWithin base (base + tree.width) middle)
    (places : ∀ place, part.HasPlace partBase place → tree.HasPlace base place)
    (lower : base ≤ partBase) (upper : partBase + part.width ≤ base + tree.width) :
    ways.Inside tree base old where
  threads thread member := places _ (inside.threads thread member)
  through path equation := within.trans ((inside.through path equation).widen lower upper)

namespace Tree

variable {site : Site}

section Taking
variable {tree : Tree} {base place : Nat} (old path : Path)

theorem takeChar_inside (c : Char) (inside : tree.HasPlace base place) :
    (takeChar site c place path).Inside tree base old := by
  unfold takeChar
  split
  · exact .take inside
  · exact .none

theorem enterChars_inside (set : CharSet) (inside : tree.HasPlace base place) :
    (enter site (chars set) place path).Inside tree base old := by
  unfold enter
  split
  · exact .take inside
  · exact .none

end Taking

theorem anotherRound_inside (greedy once : Bool) (set : CharSet) (base : Nat) {old path : Path}
    (within : old.PassedWithin base (base + 2) path) :
    (anotherRound greedy base (enter site (chars set) (base + 1)) path).Inside
      (loop greedy once (chars set)) base old := by
  unfold anotherRound
  split
  · exact .none
  · rename_i passed passes
    have body : (enter site (chars set) (base + 1) passed).Inside
        (loop greedy once (chars set)) base old := enterChars_inside old passed set rfl
    have through : old.PassedWithin base (base + 2) passed :=
      within.trans (.of_pass? passes (Nat.le_refl base) (by omega))
    cases greedy with
    | true =>
      refine ⟨by simpa [Ways.threads] using body.threads, ?_⟩
      intro other equation
      cases equation
      exact through
    | false =>
      refine ⟨by simpa [Ways.threads] using body.threads, ?_⟩
      intro other equation
      cases equation
      exact through

theorem Simple.enter_inside {tree : Tree} (simple : tree.Simple) (site : Site) : ∀ base path,
    (enter site tree base path).Inside tree base path := by
  induction simple with
  | empty => exact fun _ path => .pass (.self path _ _)
  | literal text =>
    intro base path
    cases text with
    | nil => exact .pass (.self path _ _)
    | cons c rest =>
      exact takeChar_inside path path c ⟨Nat.le_refl base, Nat.lt_add_of_pos_right (by simp)⟩
  | chars set => exact fun _ path => enterChars_inside path path set rfl
  | check assertion =>
    intro base path
    unfold enter
    split
    · exact .pass (.self path _ _)
    · exact .none
  | @seq first rest _ _ firstInduction restInduction =>
    intro base path
    have firstInside : (enter site first base path).Inside
        (.seq first.width first rest) base path :=
      (firstInduction base path).widen (.self path _ _) (fun _ => .inl) (Nat.le_refl _)
        (by rw [width]; omega)
    refine .andThen firstInside fun middle within => ?_
    exact (restInduction (base + first.width) middle).widen within (fun _ => .inr) (by omega)
      (by rw [width]; omega)
  | @choice first rest _ _ _ firstInduction restInduction =>
    intro base path
    unfold enter
    cases passes : path.pass? base with
    | none => exact .none
    | some passed =>
      have within : path.PassedWithin base (base + (Tree.choice first.width first rest).width)
          passed := .of_pass? passes (Nat.le_refl base) (by rw [width]; omega)
      refine .orElse ?_ ?_
      · exact (firstInduction (base + 1) passed).widen within (fun _ => .inl) (by omega)
          (by rw [width]; omega)
      · exact (restInduction (base + 1 + first.width) passed).widen within (fun _ => .inr)
          (by omega) (by rw [width]; omega)
  | group index _ bodyInduction =>
    intro base path
    refine .andThen (bodyInduction base (path.enterGroup site.index)) ?_
    exact fun middle within => .pass (within.leaveGroup index site.index)
  | loop greedy once set =>
    intro base path
    have again := fun middle within =>
      @anotherRound_inside site greedy once set base path middle within
    unfold enter
    cases once with
    | true => exact .andThen (enterChars_inside path path set rfl) again
    | false => exact again path (.self path _ _)
  | @optional body greedy _ _ bodyInduction =>
    intro base path
    unfold enter enterUpTo
    cases passes : path.pass? base with
    | none => exact .none
    | some passed =>
      have within : path.PassedWithin base (base + (upTo 1 greedy body.width body).width)
          passed := .of_pass? passes (Nat.le_refl base) (by rw [width]; omega)
      have bodyInside := (bodyInduction (base + 1) passed).widen within
        (fun _ => hasPlace_optional.mpr) (by omega) (by rw [width]; omega)
      have more : ((enter site body (base + 1) passed).andThen
          (enterUpTo (enter site body) greedy body.width 0 (base + 1 + body.width))).Inside
            (upTo 1 greedy body.width body) base path :=
        bodyInside.andThen fun middle passedMiddle => .pass passedMiddle
      cases greedy with
      | true => exact more.orElse (.pass within)
      | false => exact (Ways.All.pass within).orElse more

theorem Simple.resume_inside {tree : Tree} (simple : tree.Simple) (site : Site) :
    ∀ base place path, tree.HasPlace base place →
      (resume site tree base place path).Inside tree base path := by
  induction simple with
  | empty => exact fun _ _ _ inside => inside.elim
  | literal text =>
    intro base place path inside
    unfold resume
    split
    · exact .pass (.self path _ _)
    · rename_i c rest remaining
      have count := congrArg List.length remaining
      rw [List.length_drop, List.length_cons] at count
      obtain ⟨above, below⟩ := inside
      exact takeChar_inside path path c ⟨by omega, by omega⟩
  | chars set => exact fun _ _ path _ => .pass (.self path _ _)
  | check assertion => exact fun _ _ _ inside => inside.elim
  | @seq first rest firstSimple restSimple firstInduction restInduction =>
    intro base place path inside
    unfold resume
    rcases inside with inside | inside
    · have range := firstSimple.hasPlace_range base place inside
      have firstInside : (resume site first base place path).Inside
          (.seq first.width first rest) base path :=
        (firstInduction base place path inside).widen (.self path _ _) (fun _ => .inl)
          (Nat.le_refl _) (by rw [width]; omega)
      rw [if_pos range.2]
      refine .andThen firstInside fun middle within => ?_
      exact (restSimple.enter_inside site (base + first.width) middle).widen within
        (fun _ => .inr) (by omega) (by rw [width]; omega)
    · have range := restSimple.hasPlace_range _ place inside
      rw [if_neg (by omega)]
      exact (restInduction _ place path inside).widen (.self path _ _) (fun _ => .inr)
        (by omega) (by rw [width]; omega)
  | @choice first rest firstSimple restSimple _ firstInduction restInduction =>
    intro base place path inside
    unfold resume
    rcases inside with inside | inside
    · have range := firstSimple.hasPlace_range _ place inside
      rw [if_pos range.2]
      exact (firstInduction _ place path inside).widen (.self path _ _) (fun _ => .inl)
        (by omega) (by rw [width]; omega)
    · have range := restSimple.hasPlace_range _ place inside
      rw [if_neg (by omega)]
      exact (restInduction _ place path inside).widen (.self path _ _) (fun _ => .inr)
        (by omega) (by rw [width]; omega)
  | group index _ bodyInduction =>
    intro base place path inside
    refine .andThen (bodyInduction base place path inside) ?_
    exact fun middle within => .pass (within.leaveGroup index site.index)
  | loop greedy once set =>
    intro base place path inside
    exact .andThen (.pass (.self path _ _)) fun middle within =>
      anotherRound_inside greedy once set base within
  | @optional body greedy bodySimple _ bodyInduction =>
    intro base place path inside
    have bodyPlace := hasPlace_optional.mp inside
    have range := bodySimple.hasPlace_range _ place bodyPlace
    have copy : (place - base) / (1 + body.width) = 0 := Nat.div_eq_of_lt (by omega)
    have bodyInside : (resume site body (base + 1) place path).Inside
        (upTo 1 greedy body.width body) base path :=
      (bodyInduction (base + 1) place path bodyPlace).widen (.self path _ _)
        (fun _ => hasPlace_optional.mpr) (by omega) (by rw [width]; omega)
    unfold resume
    simp only [copy, Nat.zero_mul, Nat.add_zero]
    exact bodyInside.andThen fun middle within => .pass within

end Tree

/-! ## Ways through without a character -/

namespace Ways

variable {ways : Ways} {next : Path → Ways}

theorem andThen_of_through_none (through : ways.through = .none) : ways.andThen next = ways := by
  unfold andThen
  rw [through]

theorem through_andThen_none (through : ∀ path, (next path).through = .none) :
    (ways.andThen next).through = .none := by
  unfold andThen
  split
  · assumption
  · exact through _

end Ways

/-- A way through a consuming tree does not end before a character is taken. -/
theorem Tree.enter_through_of_isConsuming (tree : Tree) (site : Site) :
    tree.isConsuming = true → ∀ base path, (enter site tree base path).through = none := by
  induction tree with
  | empty =>
    intro consuming
    cases consuming
  | literal text =>
    intro consuming base path
    cases text with
    | nil => cases consuming
    | cons c rest =>
      unfold enter takeChar
      split <;> rfl
  | chars set =>
    intro _ base path
    unfold enter
    split <;> rfl
  | check assertion =>
    intro consuming
    cases consuming
  | seq width first rest firstInduction restInduction =>
    intro consuming base path
    rcases Bool.or_eq_true_iff.mp consuming with own | own
    · have through := firstInduction own base path
      unfold enter
      rw [Ways.andThen_of_through_none through]
      exact through
    · exact Ways.through_andThen_none (restInduction own (base + width))
  | choice width first rest firstInduction restInduction =>
    intro consuming base path
    obtain ⟨firstOwn, restOwn⟩ := Bool.and_eq_true_iff.mp consuming
    unfold enter
    cases path.pass? base with
    | none => rfl
    | some passed =>
      simp only [Ways.orElse, firstInduction firstOwn, restInduction restOwn]
  | group index body bodyInduction =>
    intro consuming base path
    have through := bodyInduction consuming base (path.enterGroup site.index)
    unfold enter
    rw [Ways.andThen_of_through_none through]
    exact through
  | loop greedy once body bodyInduction =>
    intro consuming base path
    obtain ⟨atLeastOnce, bodyOwn⟩ := Bool.and_eq_true_iff.mp consuming
    have through := bodyInduction bodyOwn (base + 1) path
    unfold enter
    rw [atLeastOnce, if_pos rfl, Ways.andThen_of_through_none through]
    exact through
  | copies count width body bodyInduction =>
    intro consuming base path
    obtain ⟨several, bodyOwn⟩ := Bool.and_eq_true_iff.mp consuming
    obtain ⟨fewer, total⟩ := Nat.exists_eq_succ_of_ne_zero (bne_iff_ne.mp several)
    have through := bodyInduction bodyOwn base path
    unfold enter
    rw [total, enterCopies, Ways.andThen_of_through_none through]
    exact through
  | upTo count greedy width body =>
    intro consuming
    cases consuming

end Highlighter
