import Highlighter.Proofs.Rule.Row

/-!
# The longest phrase

What a pattern prefers need not be the longest that it can take.  Where each part
takes as much as it can, and a part that takes less leaves nothing to gain for those
after it, the preferred phrase is the longest.  A rule of such phrases finds the
longest text of its language that stands at the front.
-/

set_option autoImplicit false

namespace Highlighter

/-- The longest text of a language that a text begins with. -/
structure IsLongest (language : List Char → Prop) (text phrase : List Char) : Prop where
  mem : language phrase
  front : phrase <+: text
  longest : ∀ other, language other → other <+: text → other.length ≤ phrase.length

namespace Phrases

variable {first rest third : Phrases} {accepts : Char → Bool}

/-! ## The language of phrases -/

/-- The phrases are the texts of a language that stand at the front, in whatever order. -/
def Spell (phrases : Phrases) (language : List Char → Prop) : Prop :=
  ∀ text phrase, phrase ∈ phrases text ↔ phrase <+: text ∧ language phrase

namespace Spell

variable {language more : List Char → Prop}

theorem words (spelled : List (List Char)) : (Phrases.words spelled).Spell (· ∈ spelled) := by
  intro text phrase
  rw [mem_words, and_comm]

theorem one (accepts : Char → Bool) :
    (Phrases.one accepts).Spell fun phrase => ∃ c, accepts c = true ∧ phrase = [c] := by
  intro text phrase
  cases text with
  | nil => simp +contextual [Phrases.one, List.prefix_nil]
  | cons c text =>
    by_cases accepted : accepts c = true
    · simp only [Phrases.one, if_pos accepted, List.mem_singleton]
      constructor
      · rintro rfl
        exact ⟨⟨text, rfl⟩, c, accepted, rfl⟩
      · rintro ⟨front, d, -, rfl⟩
        rw [(List.cons_prefix_cons.mp front).1]
    · simp only [Phrases.one, if_neg accepted, List.not_mem_nil, false_iff]
      rintro ⟨front, d, other, rfl⟩
      rw [(List.cons_prefix_cons.mp front).1] at other
      exact accepted other

theorem run (accepts : Char → Bool) :
    (Phrases.run accepts).Spell fun phrase => ∀ c ∈ phrase, accepts c = true :=
  fun _ _ => mem_run

theorem someRun (accepts : Char → Bool) :
    (Phrases.someRun accepts).Spell fun phrase =>
      phrase ≠ [] ∧ ∀ c ∈ phrase, accepts c = true := by
  intro text phrase
  rw [mem_someRun, and_left_comm]

theorem andThen (firstSpell : first.Spell language) (restSpell : rest.Spell more) :
    (first.andThen rest).Spell fun phrase =>
      ∃ front back, language front ∧ more back ∧ front ++ back = phrase := by
  intro text phrase
  rw [mem_andThen]
  constructor
  · rintro ⟨front, frontFound, back, backFound, rfl⟩
    obtain ⟨⟨tail, rfl⟩, frontMember⟩ := (firstSpell _ _).mp frontFound
    rw [List.drop_left] at backFound
    obtain ⟨backFront, backMember⟩ := (restSpell _ _).mp backFound
    refine ⟨(List.prefix_append_right_inj front).mpr backFront, front, back, frontMember,
      backMember, rfl⟩
  · rintro ⟨⟨tail, rfl⟩, front, back, frontMember, backMember, rfl⟩
    rw [List.append_assoc]
    refine ⟨front, (firstSpell _ _).mpr ⟨List.prefix_append _ _, frontMember⟩, back, ?_, rfl⟩
    rw [List.drop_left]
    exact (restSpell _ _).mpr ⟨List.prefix_append _ _, backMember⟩

theorem orElse (firstSpell : first.Spell language) (restSpell : rest.Spell more) :
    (first.orElse rest).Spell fun phrase => language phrase ∨ more phrase := by
  intro text phrase
  rw [Phrases.orElse, List.mem_append, firstSpell, restSpell, and_or_left]

theorem optional (firstSpell : first.Spell language) :
    first.optional.Spell fun phrase => language phrase ∨ phrase = [] := by
  intro text phrase
  rw [Phrases.optional, List.mem_append, firstSpell, List.mem_singleton, and_or_left]
  refine or_congr_right ⟨?_, fun both => both.2⟩
  rintro rfl
  exact ⟨List.nil_prefix, rfl⟩

theorem congr (firstSpell : first.Spell language) (same : ∀ phrase, language phrase ↔ more phrase) :
    first.Spell more := by
  intro text phrase
  rw [firstSpell, same]

end Spell

/-! ## Phrases of phrases -/

theorem andThen_assoc (first rest third : Phrases) :
    (first.andThen rest).andThen third = first.andThen (rest.andThen third) := by
  funext text
  simp only [andThen, List.flatMap_assoc, List.flatMap_map, List.map_flatMap, List.map_map,
    List.length_append, List.drop_drop, Function.comp_def, List.append_assoc]

theorem orElse_andThen (first rest third : Phrases) :
    (first.orElse rest).andThen third = (first.andThen third).orElse (rest.andThen third) := by
  funext text
  simp only [andThen, orElse, List.flatMap_append]

theorem run_andThen_cons {c : Char} (accepted : accepts c = true) (text : List Char) :
    ((run accepts).andThen rest) (c :: text)
      = (((run accepts).andThen rest) text).map (c :: ·) ++ rest (c :: text) := by
  simp [andThen, run, accepted, List.flatMap_map, List.map_flatMap, Function.comp_def]

/-! ## Greedy phrases -/

/-- There is at most one phrase. -/
def Single (phrases : Phrases) : Prop :=
  ∀ text, (phrases text).length ≤ 1

theorem single_one (accepts : Char → Bool) : (one accepts).Single := by
  intro text
  cases text with
  | nil => simp [one]
  | cons c text => by_cases accepted : accepts c <;> simp [one, accepted]

theorem single_words (word : List Char) : (words [word]).Single :=
  fun _ => List.length_filter_le _ [word]

theorem Single.cases (single : first.Single) (text : List Char) :
    first text = [] ∨ ∃ phrase, first text = [phrase] := by
  have count := single text
  cases found : first text with
  | nil => exact .inl rfl
  | cons phrase others =>
    rw [found, List.length_cons] at count
    have none : others = [] := List.eq_nil_of_length_eq_zero (by omega)
    exact .inr ⟨phrase, by rw [none]⟩

/-- No phrase is longer than the preferred one. -/
def Greedy (phrases : Phrases) : Prop :=
  ∀ text first others, phrases text = first :: others →
    ∀ phrase ∈ others, phrase.length ≤ first.length

namespace Greedy

theorem length_le {phrases : Phrases} (greedy : phrases.Greedy) {text longest phrase : List Char}
    (preferred : (phrases text).head? = some longest) (member : phrase ∈ phrases text) :
    phrase.length ≤ longest.length := by
  obtain ⟨others, all⟩ := List.head?_eq_some_iff.mp preferred
  rw [all] at member
  rcases List.mem_cons.mp member with rfl | other
  · exact Nat.le_refl _
  · exact greedy text longest others all phrase other

/-- It is enough that nothing is longer than the preferred phrase. -/
theorem of_length_le {phrases : Phrases} (bounded : ∀ text longest,
    (phrases text).head? = some longest → ∀ phrase ∈ phrases text,
      phrase.length ≤ longest.length) : phrases.Greedy := by
  intro text longest others all phrase member
  apply bounded text longest
  · rw [all, List.head?_cons]
  · rw [all]
    exact List.mem_cons_of_mem _ member

theorem orElse (firstGreedy : first.Greedy) (restGreedy : rest.Greedy)
    (shorter : ∀ text, ∀ longer ∈ first text, ∀ phrase ∈ rest text,
      phrase.length ≤ longer.length) : (first.orElse rest).Greedy := by
  refine of_length_le fun text longest preferred phrase member => ?_
  unfold Phrases.orElse at preferred member
  cases found : first text with
  | nil =>
    rw [found, List.nil_append] at preferred member
    exact restGreedy.length_le preferred member
  | cons own others =>
    rw [found, List.cons_append, List.head?_cons] at preferred
    cases preferred
    rcases List.mem_append.mp member with early | late
    · exact firstGreedy.length_le (by rw [found, List.head?_cons]) early
    · exact shorter text longest (by rw [found]; exact List.mem_cons_self) phrase late

theorem optional (firstGreedy : first.Greedy) : first.optional.Greedy := by
  refine of_length_le fun text longest preferred phrase member => ?_
  unfold Phrases.optional at preferred member
  rcases List.mem_append.mp member with taken | skipped
  · cases found : first text with
    | nil =>
      rw [found] at taken
      cases taken
    | cons own others =>
      rw [found, List.cons_append, List.head?_cons] at preferred
      exact firstGreedy.length_le (by rw [found, List.head?_cons, preferred]) taken
  · rw [List.mem_singleton.mp skipped]
    exact Nat.zero_le _

/-- After the only phrase that can be taken, the longest of those that follow is the longest. -/
theorem andThen (firstSingle : first.Single) (restGreedy : rest.Greedy) :
    (first.andThen rest).Greedy := by
  refine of_length_le fun text longest preferred phrase member => ?_
  unfold Phrases.andThen at preferred member
  rcases firstSingle.cases text with nothing | ⟨front, only⟩
  · rw [nothing] at member
    cases member
  · rw [only, List.flatMap_singleton] at preferred member
    rw [List.head?_map, Option.map_eq_some_iff] at preferred
    obtain ⟨back, backPreferred, rfl⟩ := preferred
    obtain ⟨other, otherMember, rfl⟩ := List.mem_map.mp member
    have shorter := restGreedy.length_le backPreferred otherMember
    simp only [List.length_append]
    omega

/-- A phrase that can be left out is longer than what follows without it. -/
theorem optional_andThen (firstSingle : first.Single) (restGreedy : rest.Greedy)
    (shorter : ∀ text, ∀ longer ∈ first text, ∀ phrase ∈ rest text,
      phrase.length ≤ longer.length) : (first.optional.andThen rest).Greedy := by
  have split : first.optional.andThen rest = (first.andThen rest).orElse rest := by
    funext text
    simp [Phrases.andThen, Phrases.optional, Phrases.orElse]
  rw [split]
  refine (andThen firstSingle restGreedy).orElse restGreedy fun text longer found phrase member => ?_
  obtain ⟨front, frontFound, back, -, rfl⟩ := mem_andThen.mp found
  have bounded := shorter text front frontFound phrase member
  rw [List.length_append]
  omega

/-- What follows a run may take the end of the run over, but gains nothing by that. -/
theorem run_andThen (restGreedy : rest.Greedy)
    (takesOver : ∀ c text, accepts c = true → ∀ phrase ∈ rest (c :: text),
      phrase = [] ∨ ∃ more ∈ rest text, phrase = c :: more) :
    ((Phrases.run accepts).andThen rest).Greedy := by
  refine of_length_le fun text => ?_
  induction text with
  | nil =>
    intro longest preferred phrase member
    simp only [Phrases.andThen, Phrases.run, List.flatMap_singleton, List.nil_append,
      List.map_id', List.length_nil, List.drop_zero] at preferred member
    exact restGreedy.length_le preferred member
  | cons c text inductionHypothesis =>
    intro longest preferred phrase member
    by_cases accepted : accepts c = true
    · rw [run_andThen_cons accepted] at preferred member
      cases found : ((Phrases.run accepts).andThen rest) text with
      | nil =>
        rw [found, List.map_nil, List.nil_append] at preferred member
        exact restGreedy.length_le preferred member
      | cons own others =>
        rw [found, List.map_cons, List.cons_append, List.head?_cons] at preferred
        cases preferred
        have bounded := inductionHypothesis own (by rw [found, List.head?_cons])
        rcases List.mem_append.mp member with early | late
        · obtain ⟨other, otherMember, rfl⟩ := List.mem_map.mp early
          exact Nat.succ_le_succ (bounded other otherMember)
        · rcases takesOver c text accepted phrase late with rfl | ⟨more, moreMember, rfl⟩
          · exact Nat.zero_le _
          · refine Nat.succ_le_succ (bounded more (mem_andThen.mpr ⟨[], ?_, more, ?_, rfl⟩))
            · simp
            · simpa using moreMember
    · simp only [Phrases.andThen, Phrases.run, if_neg accepted, List.flatMap_singleton,
        List.nil_append, List.map_id', List.length_nil, List.drop_zero] at preferred member
      exact restGreedy.length_le preferred member

theorem run (accepts : Char → Bool) : (Phrases.run accepts).Greedy := by
  intro text longest others all phrase member
  obtain ⟨shorter, longestFirst⟩ := run_eq accepts text
  rw [all] at longestFirst
  obtain ⟨rfl, rfl⟩ := List.cons.inj longestFirst
  have found : phrase ∈ Phrases.run accepts text := by
    rw [all]
    exact List.mem_cons_of_mem _ member
  obtain ⟨⟨tail, rfl⟩, accepted⟩ := mem_run.mp found
  rw [List.takeWhile_append_of_pos accepted, List.length_append]
  omega

theorem someRun (accepts : Char → Bool) : (Phrases.someRun accepts).Greedy :=
  andThen (single_one accepts) (run accepts)

theorem someRun_andThen (restGreedy : rest.Greedy)
    (takesOver : ∀ c text, accepts c = true → ∀ phrase ∈ rest (c :: text),
      phrase = [] ∨ ∃ more ∈ rest text, phrase = c :: more) :
    ((Phrases.someRun accepts).andThen rest).Greedy := by
  rw [Phrases.someRun, andThen_assoc]
  exact andThen (single_one accepts) (run_andThen restGreedy takesOver)

end Greedy

/-- The preferred one of greedy phrases is the longest text of their language. -/
theorem Greedy.isLongest {phrases : Phrases} (greedy : phrases.Greedy) {language : List Char → Prop}
    (spell : phrases.Spell language) {text longest : List Char}
    (preferred : (phrases text).head? = some longest) : IsLongest language text longest := by
  have own := (spell text longest).mp (List.mem_of_head? preferred)
  exact ⟨own.2, own.1, fun other member front =>
    greedy.length_le preferred ((spell text other).mpr ⟨front, member⟩)⟩

theorem Greedy.exists_isLongest {phrases : Phrases} (greedy : phrases.Greedy)
    {language : List Char → Prop} (spell : phrases.Spell language) {text phrase : List Char}
    (member : language phrase) (front : phrase <+: text) :
    ∃ longest, IsLongest language text longest := by
  have found := (spell text phrase).mpr ⟨front, member⟩
  obtain ⟨preferred, others, all⟩ := List.exists_cons_of_ne_nil (List.ne_nil_of_mem found)
  exact ⟨preferred, greedy.isLongest spell (by rw [all, List.head?_cons])⟩

end Phrases

/-! ## Rules of greedy phrases -/

namespace Rule

variable {rule : Rule} {count : Nat} {body : Tree} {phrases : Phrases} {cls : TokenClass}
  {language : List Char → Prop}

/-- A rule of greedy phrases finds the longest text of its language, and no rule of the language
fails where the text begins with one. -/
theorem match?_longest_iff (simple : body.Simple) (reads : body.Reads phrases)
    (greedy : phrases.Greedy) (spell : phrases.Spell language) (nonempty : ¬language [])
    (pattern : rule.pattern = .atStart body count) (labelling : rule.labelling = .whole cls)
    (free : rule.barred? = none) (offset : Nat) (text : List Char) (found : Found) :
    rule.match? offset text = some found ↔ ∃ phrase, IsLongest language text phrase ∧
      found = ⟨phrase.length, [.ofText cls phrase offset]⟩ := by
  have mayEnd : ∀ rest, rule.mayEndBefore rest = true := by
    intro rest
    unfold mayEndBefore
    rw [free]
  have ne_nil : ∀ phrase, language phrase → phrase ≠ [] := by
    rintro phrase member rfl
    exact nonempty member
  rw [match?_whole simple reads pattern labelling, Option.bind_eq_some_iff]
  constructor
  · rintro ⟨phrase, preferred, decided⟩
    have longest := greedy.isLongest spell preferred
    rw [if_pos ⟨ne_nil phrase longest.mem, mayEnd _⟩] at decided
    exact ⟨phrase, longest, (Option.some.inj decided).symm⟩
  · rintro ⟨phrase, longest, rfl⟩
    have member := (spell text phrase).mpr ⟨longest.front, longest.mem⟩
    cases front : (phrases text).head? with
    | none =>
      rw [List.head?_eq_none_iff.mp front] at member
      cases member
    | some preferred =>
      have own := greedy.isLongest spell front
      -- Two texts at the front that are both longest are the same.
      have same : phrase = preferred :=
        (List.prefix_of_prefix_length_le longest.front own.front
          (own.longest phrase longest.mem longest.front)).eq_of_length_le
            (longest.longest preferred own.mem own.front)
      subst same
      exact ⟨phrase, rfl, if_pos ⟨ne_nil phrase longest.mem, mayEnd _⟩⟩

end Rule

end Highlighter
