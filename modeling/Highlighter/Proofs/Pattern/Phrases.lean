import Highlighter.Proofs.Pattern.Readings

/-!
# What a tree takes from the front of a text

Where a tree looks at nothing but the text to come and records nothing, its
readings are told by the phrases that it takes from the front of the text, the
preferred before the others.  A row of groups takes one phrase for each group.
-/

set_option autoImplicit false

namespace Highlighter

namespace Reading

def past (phrase : List Char) (reading : Reading) : Reading :=
  ⟨phrase.getLast?.or reading.before, reading.rest.drop phrase.length,
    reading.index + phrase.length, reading.path⟩

/-- The reading after a phrase has been taken for a group. -/
def capture (group : Nat) (phrase : List Char) (reading : Reading) : Reading :=
  (reading.enterGroup.past phrase).leaveGroup group

variable {accepts : Char → Bool} {reading : Reading}

@[simp] theorem past_nil (reading : Reading) : reading.past [] = reading := rfl

@[simp] theorem past_past (first second : List Char) (reading : Reading) :
    (reading.past first).past second = reading.past (first ++ second) := by
  simp [past, List.getLast?_append, Option.or_assoc, Nat.add_assoc]

theorem past_cons (before : Option Char) (c : Char) (rest phrase : List Char) (index : Nat)
    (path : Path) :
    past phrase ⟨some c, rest, index + 1, path⟩
      = past (c :: phrase) ⟨before, c :: rest, index, path⟩ := by
  have last : phrase.getLast?.or (some c) = (c :: phrase).getLast?.or before := by
    rw [List.getLast?_cons]
    cases phrase.getLast? <;> rfl
  unfold past
  rw [last, List.length_cons, List.drop_succ_cons, Nat.add_assoc, Nat.add_comm 1]

@[simp] theorem past_rest (phrase : List Char) (reading : Reading) :
    (reading.past phrase).rest = reading.rest.drop phrase.length := rfl

@[simp] theorem capture_index (group : Nat) (phrase : List Char) (reading : Reading) :
    (reading.capture group phrase).index = reading.index + phrase.length := rfl

@[simp] theorem capture_path (group : Nat) (phrase : List Char) (reading : Reading) :
    (reading.capture group phrase).path
      = { reading.path with
          groups := (group, ⟨reading.index, reading.index + phrase.length⟩)
            :: reading.path.groups } := rfl

end Reading

/-- What may be taken from the front of a text, the preferred first. -/
abbrev Phrases := List Char → List (List Char)

namespace Phrases

def words (words : List (List Char)) : Phrases :=
  fun text => words.filter (·.isPrefixOf text)

def one (accepts : Char → Bool) : Phrases
  | [] => []
  | c :: _ => if accepts c then [[c]] else []

/-- Characters that are accepted, as many as possible first. -/
def run (accepts : Char → Bool) : Phrases
  | [] => [[]]
  | c :: text => if accepts c then (run accepts text).map (c :: ·) ++ [[]] else [[]]

/-- Of two phrases, one after the other. -/
def andThen (first rest : Phrases) : Phrases :=
  fun text => (first text).flatMap fun phrase =>
    (rest (text.drop phrase.length)).map (phrase ++ ·)

/-- At least one character that is accepted, and as many as possible first. -/
def someRun (accepts : Char → Bool) : Phrases :=
  (one accepts).andThen (run accepts)

def orElse (first rest : Phrases) : Phrases :=
  fun text => first text ++ rest text

def optional (phrases : Phrases) : Phrases :=
  fun text => phrases text ++ [[]]

/-- Nothing, where a line ends. -/
def lineEnd : Phrases :=
  fun text => if text.head?.all (· == '\n') then [[]] else []

/-- One phrase after another, kept apart. -/
def row : List Phrases → List Char → List (List (List Char))
  | [], _ => [[]]
  | first :: others, text =>
    (first text).flatMap fun phrase => (row others (text.drop phrase.length)).map (phrase :: ·)

/-! ## Words -/

@[simp] theorem mem_words {spelled : List (List Char)} {text phrase : List Char} :
    phrase ∈ words spelled text ↔ phrase ∈ spelled ∧ phrase <+: text := by
  simp [words]

theorem mem_andThen {first rest : Phrases} {text phrase : List Char} :
    phrase ∈ first.andThen rest text ↔ ∃ front ∈ first text,
      ∃ back ∈ rest (text.drop front.length), front ++ back = phrase := by
  simp [andThen, List.mem_flatMap]

theorem append_isPrefixOf (first second text : List Char) :
    (first ++ second).isPrefixOf text
      = (first.isPrefixOf text && second.isPrefixOf (text.drop first.length)) := by
  induction first generalizing text with
  | nil => simp
  | cons c first inductionHypothesis =>
    cases text with
    | nil => rfl
    | cons d text => simp [List.isPrefixOf, inductionHypothesis, Bool.and_assoc]

theorem words_andThen (first second : List (List Char)) :
    (words first).andThen (words second)
      = words (first.flatMap fun word => second.map (word ++ ·)) := by
  funext text
  unfold words andThen
  dsimp only
  induction first with
  | nil => rfl
  | cons word others inductionHypothesis =>
    rw [List.filter_cons, List.flatMap_cons, List.filter_append, ← inductionHypothesis,
      List.filter_map]
    by_cases spelled : word.isPrefixOf text
    · simp [spelled, append_isPrefixOf, Function.comp_def]
    · simp [spelled, append_isPrefixOf, Function.comp_def]

theorem words_orElse (first second : List (List Char)) :
    (words first).orElse (words second) = words (first ++ second) := by
  funext text
  simp [words, orElse]

theorem orElse_assoc (first second third : Phrases) :
    (first.orElse second).orElse third = first.orElse (second.orElse third) := by
  funext text
  exact List.append_assoc _ _ _

/-- Of words of which none begins another, at most one is found. -/
theorem words_append {spelled : List (List Char)} {word : List Char} (member : word ∈ spelled)
    (apart : spelled.Pairwise fun first second => ¬first <+: second ∧ ¬second <+: first)
    (rest : List Char) : words spelled (word ++ rest) = [word] := by
  induction apart with
  | nil => cases member
  | @cons first others different _ inductionHypothesis =>
    unfold words at inductionHypothesis ⊢
    rw [List.filter_cons]
    rcases List.mem_cons.mp member with rfl | later
    · have nothing : others.filter (·.isPrefixOf (word ++ rest)) = [] := by
        refine List.filter_eq_nil_iff.mpr fun other among front => ?_
        have comparable := List.prefix_or_prefix_of_prefix
          (List.isPrefixOf_iff_prefix.mp front) (List.prefix_append word rest)
        rcases comparable with shorter | longer
        · exact (different other among).2 shorter
        · exact (different other among).1 longer
      simp [nothing]
    · have absent : first.isPrefixOf (word ++ rest) = false := by
        refine Bool.eq_false_iff.mpr fun front => ?_
        have comparable := List.prefix_or_prefix_of_prefix
          (List.isPrefixOf_iff_prefix.mp front) (List.prefix_append word rest)
        rcases comparable with shorter | longer
        · exact (different word later).1 shorter
        · exact (different word later).2 longer
      rw [absent]
      exact inductionHypothesis later

theorem one_pair {accepts : Char → Bool} {first second : Char} (distinct : first ≠ second)
    (only : ∀ c, accepts c = (c == first || c == second)) :
    one accepts = words [[first], [second]] := by
  funext text
  cases text with
  | nil => rfl
  | cons c rest =>
    simp only [one, words, only c]
    by_cases same : c = first
    · subst same
      simp [List.isPrefixOf, distinct.symm]
    · by_cases other : c = second
      · subst other
        simp [List.isPrefixOf, distinct]
      · simp [List.isPrefixOf, same, other, Ne.symm same, Ne.symm other]

/-- A line ends only before characters that the line feed is unlike. -/
theorem takeWhile_of_mem_lineEnd {accepts : Char → Bool} (newline : accepts '\n' = false)
    {text phrase : List Char} (member : phrase ∈ lineEnd text) : text.takeWhile accepts = [] := by
  cases text with
  | nil => rfl
  | cons c rest =>
    by_cases same : c = '\n'
    · subst same
      simp [newline]
    · simp [lineEnd, same] at member

/-! ## Runs -/

section Runs
variable {accepts : Char → Bool}

theorem run_eq (accepts : Char → Bool) (text : List Char) :
    ∃ shorter, run accepts text = text.takeWhile accepts :: shorter := by
  induction text with
  | nil => exact ⟨[], rfl⟩
  | cons c text inductionHypothesis =>
    obtain ⟨shorter, longest⟩ := inductionHypothesis
    by_cases accepted : accepts c
    · exact ⟨shorter.map (c :: ·) ++ [[]], by simp [run, accepted, longest]⟩
    · exact ⟨[], by simp [run, accepted]⟩

@[simp] theorem mem_run {text phrase : List Char} :
    phrase ∈ run accepts text ↔ phrase <+: text ∧ ∀ c ∈ phrase, accepts c = true := by
  induction text generalizing phrase with
  | nil =>
    cases phrase with
    | nil => simp [run]
    | cons d phrase => simp [run]
  | cons c text inductionHypothesis =>
    cases phrase with
    | nil =>
      by_cases accepted : accepts c
      · simp [run, accepted]
      · simp [run, accepted]
    | cons d phrase =>
      by_cases accepted : accepts c
      · have later := @inductionHypothesis phrase
        by_cases same : d = c
        · subst same
          simp [run, accepted, later, List.cons_prefix_cons]
        · simp [run, accepted, List.cons_prefix_cons, same, Ne.symm same]
      · by_cases same : d = c
        · subst same
          simp [run, accepted]
        · simp [run, accepted, List.cons_prefix_cons, same]

theorem someRun_cons (c : Char) (text : List Char) :
    someRun accepts (c :: text) = if accepts c then (run accepts text).map (c :: ·) else [] := by
  by_cases accepted : accepts c
  · simp [someRun, andThen, one, accepted]
  · simp [someRun, andThen, one, accepted]

theorem mem_someRun {text phrase : List Char} :
    phrase ∈ someRun accepts text ↔
      phrase ≠ [] ∧ phrase <+: text ∧ ∀ c ∈ phrase, accepts c = true := by
  cases text with
  | nil => simp +contextual [someRun, andThen, one]
  | cons c text =>
    rw [someRun_cons]
    cases phrase with
    | nil => simp
    | cons d phrase =>
      by_cases same : d = c
      · subst same
        by_cases accepted : accepts d
        · simp [accepted, List.cons_prefix_cons]
        · simp [accepted]
      · simp [List.cons_prefix_cons, same, Ne.symm same]

theorem head?_someRun (accepts : Char → Bool) (text : List Char) :
    (someRun accepts text).head?
      = if text.takeWhile accepts = [] then none else some (text.takeWhile accepts) := by
  cases text with
  | nil => rfl
  | cons c text =>
    rw [someRun_cons]
    obtain ⟨shorter, longest⟩ := run_eq accepts text
    by_cases accepted : accepts c
    · simp [accepted, longest]
    · simp [accepted]

/-- Only the longest run counts if what follows cannot begin with a character of the run. -/
theorem run_flatMap {α : Type} (next : List Char → List Char → List α)
    (stops : ∀ phrase c text, accepts c = true → next phrase (c :: text) = [])
    (text : List Char) :
    ((run accepts text).flatMap fun phrase => next phrase (text.drop phrase.length))
      = next (text.takeWhile accepts) (text.dropWhile accepts) := by
  induction text generalizing next with
  | nil => simp [run]
  | cons c text inductionHypothesis =>
    by_cases accepted : accepts c
    · have later := @inductionHypothesis (fun phrase => next (c :: phrase))
        fun phrase => stops (c :: phrase)
      simp [run, accepted, List.flatMap_map, later, stops]
    · simp [run, accepted]

theorem takeWhile_append_ends {phrase text : List Char}
    (accepted : ∀ c ∈ phrase, accepts c = true) (ends : ∀ c ∈ text.head?, accepts c = false) :
    (phrase ++ text).takeWhile accepts = phrase ∧ (phrase ++ text).dropWhile accepts = text := by
  rw [List.takeWhile_append_of_pos accepted, List.dropWhile_append_of_pos accepted]
  cases text with
  | nil => simp
  | cons c text =>
    have other := ends c rfl
    simp [other]

/-- A run is taken as a whole if what follows cannot begin with a character of it. -/
theorem someRun_flatMap {α : Type} (next : List Char → List Char → List α)
    (stops : ∀ phrase c text, accepts c = true → next phrase (c :: text) = [])
    {phrase text : List Char} (nonempty : phrase ≠ []) (accepted : ∀ c ∈ phrase, accepts c = true)
    (ends : ∀ c ∈ text.head?, accepts c = false) :
    ((someRun accepts (phrase ++ text)).flatMap fun taken =>
        next taken ((phrase ++ text).drop taken.length)) = next phrase text := by
  obtain ⟨c, others, rfl⟩ := List.exists_cons_of_ne_nil nonempty
  obtain ⟨first, later⟩ := List.forall_mem_cons.mp accepted
  have whole := run_flatMap (fun phrase => next (c :: phrase)) (fun phrase => stops (c :: phrase))
    (others ++ text)
  obtain ⟨taken, left⟩ := takeWhile_append_ends later ends
  rw [taken, left] at whole
  rw [List.cons_append, someRun_cons, if_pos first, List.flatMap_map]
  exact whole

/-- If what follows comes after a run and not after a longer one, then it comes after that run. -/
theorem head?_run_flatMap {α : Type} (next : List Char → List Char → List α)
    {phrase text : List Char} (accepted : ∀ c ∈ phrase, accepts c = true)
    (here : next phrase text ≠ [])
    (beyond : ∀ more, more ≠ [] → more <+: text → (∀ c ∈ more, accepts c = true) →
      next (phrase ++ more) (text.drop more.length) = []) :
    ((run accepts (phrase ++ text)).flatMap fun phrase' =>
        next phrase' ((phrase ++ text).drop phrase'.length)).head?
      = (next phrase text).head? := by
  induction phrase generalizing next with
  | nil =>
    cases text with
    | nil => simp [run]
    | cons c text =>
      by_cases accepted : accepts c
      · have nothing : ((run accepts text).flatMap fun phrase =>
            next (c :: phrase) (text.drop phrase.length)) = [] := by
          refine List.flatMap_eq_nil_iff.mpr fun phrase member => ?_
          obtain ⟨front, all⟩ := mem_run.mp member
          refine beyond (c :: phrase) (List.cons_ne_nil c phrase) ?_ ?_
          · exact List.cons_prefix_cons.mpr ⟨rfl, front⟩
          · exact List.forall_mem_cons.mpr ⟨accepted, all⟩
        simp [run, accepted, List.flatMap_map, nothing]
      · simp [run, accepted]
  | cons c phrase inductionHypothesis =>
    obtain ⟨first, others⟩ := List.forall_mem_cons.mp accepted
    have later := inductionHypothesis (fun phrase => next (c :: phrase)) others here beyond
    obtain ⟨one, more, some⟩ := List.exists_cons_of_ne_nil here
    rw [some, List.head?_cons] at later
    simp [run, first, List.flatMap_map, some, later]

end Runs

/-! ## Rows -/

section Rows
variable {accepts : Char → Bool} {others : List Phrases}

theorem row_eq_nil {first : Phrases} {text : List Char} (nothing : first text = []) :
    row (first :: others) text = [] := by
  rw [row, nothing, List.flatMap_nil]

theorem row_words {spelled : List (List Char)} {word : List Char} (member : word ∈ spelled)
    (apart : spelled.Pairwise fun first second => ¬first <+: second ∧ ¬second <+: first)
    (rest : List Char) :
    row (words spelled :: others) (word ++ rest) = (row others rest).map (word :: ·) := by
  rw [row, words_append member apart, List.flatMap_singleton, List.drop_left]

theorem row_someRun (stops : ∀ c text, accepts c = true → row others (c :: text) = [])
    {phrase text : List Char} (nonempty : phrase ≠ []) (accepted : ∀ c ∈ phrase, accepts c = true)
    (ends : ∀ c ∈ text.head?, accepts c = false) :
    row (someRun accepts :: others) (phrase ++ text) = (row others text).map (phrase :: ·) := by
  refine someRun_flatMap (fun taken rest => (row others rest).map (taken :: ·)) ?_ nonempty accepted
    ends
  intro taken c rest inRun
  rw [stops c rest inRun, List.map_nil]

end Rows

end Phrases

/-! ## Trees that are told by phrases -/

namespace Tree

/-- A run of one or more characters of a set, as long as possible. -/
def run (set : CharSet) : Tree :=
  .loop true true (.chars set)

/-- Groups one after another, numbered from `number` on. -/
def row (number : Nat) (first : Tree) : List Tree → Tree
  | [] => .group number first
  | next :: others => .andThen (.group number first) (row (number + 1) next others)

/-- The readings of a tree are told by phrases. -/
structure Reads (tree : Tree) (phrases : Phrases) : Prop where
  readings : ∀ reading, tree.readings reading = (phrases reading.rest).map reading.past
  prefixed : ∀ text, ∀ phrase ∈ phrases text, phrase <+: text

namespace Reads

variable {first rest : Tree} {firstPhrases restPhrases : Phrases}

theorem take_readings (accepts : Char → Bool) (reading : Reading) :
    reading.take accepts = (Phrases.one accepts reading.rest).map reading.past := by
  obtain ⟨before, rest, index, path⟩ := reading
  cases rest with
  | nil => rfl
  | cons c rest =>
    by_cases accepted : accepts c
    · simp [Reading.take, Phrases.one, accepted, Reading.past]
    · simp [Reading.take, Phrases.one, accepted]

theorem literal (text : List Char) : Reads (.literal text) (.words [text]) where
  readings := by
    unfold Tree.readings
    induction text with
    | nil => exact fun _ => rfl
    | cons c text inductionHypothesis =>
      intro reading
      obtain ⟨before, rest, index, path⟩ := reading
      cases rest with
      | nil => rfl
      | cons d rest =>
        by_cases same : d = c
        · subst same
          simp only [Reading.takeText, Reading.take, beq_self_eq_true, if_true,
            List.flatMap_singleton, inductionHypothesis]
          by_cases spelled : text.isPrefixOf rest
          · simp [Phrases.words, List.isPrefixOf, spelled, Reading.past_cons before]
          · simp [Phrases.words, List.isPrefixOf, spelled]
        · simp [Reading.takeText, Reading.take, Phrases.words, List.isPrefixOf, same, Ne.symm same]
  prefixed _ _ member := (Phrases.mem_words.mp member).2

theorem chars (set : CharSet) : Reads (.chars set) (.one set.contains) where
  readings := take_readings set.contains
  prefixed := by
    intro text phrase member
    cases text with
    | nil => cases member
    | cons c text =>
      by_cases accepted : set.contains c
      · rw [Phrases.one, if_pos accepted] at member
        rw [List.mem_singleton.mp member]
        exact ⟨text, rfl⟩
      · rw [Phrases.one, if_neg accepted] at member
        cases member

theorem andThen (firstReads : first.Reads firstPhrases) (restReads : rest.Reads restPhrases) :
    (first.andThen rest).Reads (firstPhrases.andThen restPhrases) where
  readings reading := by
    rw [readings_andThen, firstReads.readings, List.flatMap_map]
    unfold Phrases.andThen
    rw [List.map_flatMap]
    refine List.flatMap_congr fun phrase _ => ?_
    rw [restReads.readings, List.map_map]
    simp [Function.comp_def]
  prefixed text phrase member := by
    obtain ⟨front, frontMember, more⟩ := List.mem_flatMap.mp member
    obtain ⟨back, backMember, rfl⟩ := List.mem_map.mp more
    obtain ⟨tail, whole⟩ := firstReads.prefixed text front frontMember
    have later := restReads.prefixed _ back backMember
    subst whole
    rw [List.drop_left] at later
    exact (List.prefix_append_right_inj front).mpr later

theorem orElse (firstReads : first.Reads firstPhrases) (restReads : rest.Reads restPhrases) :
    (first.orElse rest).Reads (firstPhrases.orElse restPhrases) where
  readings reading := by
    rw [readings_orElse, firstReads.readings, restReads.readings]
    exact List.map_append.symm
  prefixed text phrase member := by
    rcases List.mem_append.mp member with early | late
    · exact firstReads.prefixed text phrase early
    · exact restReads.prefixed text phrase late

theorem lineEnd : Reads (.check .lineEnd) (.lineEnd) where
  readings reading := by
    unfold Tree.readings Phrases.lineEnd Assertion.holds
    by_cases ends : reading.rest.head?.all (· == '\n')
    · simp [ends]
    · simp [ends]
  prefixed text phrase member := by
    unfold Phrases.lineEnd at member
    split at member
    · rw [List.mem_singleton.mp member]
      exact List.nil_prefix
    · cases member

theorem anyNumber_readings (accepts : Char → Bool) (reading : Reading) :
    reading.anyNumber true (Reading.take accepts)
      = (Phrases.run accepts reading.rest).map reading.past := by
  obtain ⟨before, rest, index, path⟩ := reading
  induction rest generalizing before index with
  | nil => rfl
  | cons c rest inductionHypothesis =>
    rw [Reading.anyNumber_take, if_pos rfl]
    by_cases accepted : accepts c
    · simp only [Reading.take, accepted, if_true, List.flatMap_singleton, inductionHypothesis]
      simp [Phrases.run, accepted, Reading.past_cons before, Function.comp_def]
    · simp [Reading.take, Phrases.run, accepted]

theorem anyNumber (set : CharSet) : Reads (.loop true false (.chars set)) (.run set.contains) where
  readings := anyNumber_readings set.contains
  prefixed _ _ member := (Phrases.mem_run.mp member).1

theorem optional (firstReads : first.Reads firstPhrases) (width : Nat) :
    Reads (.upTo 1 true width first) firstPhrases.optional where
  readings reading := by
    unfold Tree.readings Phrases.optional
    simp [Reading.upTo, firstReads.readings]
  prefixed text phrase member := by
    rcases List.mem_append.mp member with taken | skipped
    · exact firstReads.prefixed text phrase taken
    · rw [List.mem_singleton.mp skipped]
      exact List.nil_prefix

theorem someRun (set : CharSet) : Reads (.run set) (.someRun set.contains) where
  readings := ((chars set).andThen (anyNumber set)).readings
  prefixed := ((chars set).andThen (anyNumber set)).prefixed

section Accepts
variable {set : CharSet} {accepts : Char → Bool} (same : ∀ c, set.contains c = accepts c)
include same

theorem someRun_of : Reads (.run set) (.someRun accepts) := by
  have equal : set.contains = accepts := funext same
  subst equal
  exact someRun set

theorem anyNumber_of : Reads (.loop true false (.chars set)) (.run accepts) := by
  have equal : set.contains = accepts := funext same
  subst equal
  exact anyNumber set

end Accepts

/-- A row takes a phrase for its first part from the front, and the others from what is left. -/
theorem exists_of_mem_row (firstReads : first.Reads firstPhrases) {others : List Phrases}
    {text : List Char} {taken : List (List Char)}
    (member : taken ∈ Phrases.row (firstPhrases :: others) text) :
    ∃ phrase tail later, phrase ∈ firstPhrases text ∧ text = phrase ++ tail ∧
      later ∈ Phrases.row others tail := by
  obtain ⟨phrase, found, more⟩ := List.mem_flatMap.mp member
  obtain ⟨later, follows, -⟩ := List.mem_map.mp more
  obtain ⟨tail, whole⟩ := firstReads.prefixed text phrase found
  rw [← whole, List.drop_left] at follows
  exact ⟨phrase, tail, later, found, whole.symm, follows⟩

end Reads

end Tree

/-! ## Rows of groups -/

namespace Reading

/-- The reading after phrases have been taken for groups numbered from `number` on. -/
def captures (number : Nat) : List (List Char) → Reading → Reading
  | [], reading => reading
  | phrase :: phrases, reading => (reading.capture number phrase).captures (number + 1) phrases

end Reading

namespace Tree

theorem Reads.group {body : Tree} {phrases : Phrases} (bodyReads : body.Reads phrases)
    (number : Nat) (reading : Reading) :
    (Tree.group number body).readings reading
      = (phrases reading.rest).map fun phrase => reading.capture number phrase := by
  unfold Tree.readings
  rw [bodyReads.readings, List.map_map]
  rfl

/-- The readings of a row of groups are told by a phrase for each group. -/
theorem row_readings {first : Tree} {others : List Tree} {phrases : Phrases}
    {otherPhrases : List Phrases} (firstReads : first.Reads phrases)
    (otherReads : List.Forall₂ Reads others otherPhrases) (number : Nat) (reading : Reading) :
    (row number first others).readings reading
      = (Phrases.row (phrases :: otherPhrases) reading.rest).map fun taken =>
          reading.captures number taken := by
  induction otherReads generalizing first phrases number reading with
  | nil =>
    rw [row, firstReads.group]
    simp [Phrases.row, Reading.captures, ← List.map_eq_flatMap]
  | cons nextReads _ inductionHypothesis =>
    rw [row, readings_andThen, firstReads.group, Phrases.row, List.flatMap_map, List.map_flatMap]
    refine List.flatMap_congr fun phrase _ => ?_
    rw [inductionHypothesis nextReads, List.map_map]
    rfl

end Tree

end Highlighter
