import Highlighter.Proofs.Language.Header
import Highlighter.Proofs.Language.Numbers

/-!
# Words

Where a step begins with a character of names and no header begins, the step
takes the whole run of such characters and labels it by what it spells.  The word
`nuair` is a reserved word only together with the word `a` after it.
-/

set_option autoImplicit false

namespace Highlighter.Setanta

/-- The reserved words of control. -/
def controlWords : List (List Char) :=
  ["gniomh", "gníomh", "gnímh", "má", "le", "bris", "idir", "nó"].map String.toList

/-- The reserved words of control that open a block. -/
def blockWords : List (List Char) :=
  ["má", "nó"].map String.toList

/-- The spellings of the reserved word for output. -/
def outputWords : List (List Char) :=
  ["scriobh", "scríobh"].map String.toList

def truthWords : List (List Char) :=
  ["fior", "fíor", "breag"].map String.toList

def reservedWords : List (List Char) :=
  controlWords ++ outputWords ++ truthWords

/-- The first word of the reserved pair of words. -/
def whenWord : List Char := "nuair".toList

/-- The reserved pair of words that a text begins with, if it begins with it. -/
def pairAt? (text : List Char) : Option (List Char) :=
  let space := (text.dropWhile isNameChar).takeWhile isLineSpace
  let next := ((text.dropWhile isNameChar).dropWhile isLineSpace).takeWhile isNameChar
  if text.takeWhile isNameChar = whenWord ∧ space ≠ [] ∧ next = ['a'] then
    some (whenWord ++ space ++ next)
  else none

/-- The class and the text of the token where a text begins with a character of names. -/
def wordAt (text : List Char) : TokenClass × List Char :=
  let run := text.takeWhile isNameChar
  if run ∈ controlWords then (.keyword, run)
  else
    match pairAt? text with
    | some pair => (.keyword, pair)
    | none =>
      if run ∈ outputWords then (.builtin, run)
      else if run ∈ truthWords then (.atom, run)
      else (.identifier, run)

theorem mayEndBefore_iff {rule : Rule} (barred : rule.barred? = some isNameChar)
    (rest : List Char) :
    rule.mayEndBefore rest = true ↔ rest.takeWhile isNameChar = [] := by
  unfold Rule.mayEndBefore
  rw [barred]
  cases rest with
  | nil => simp
  | cons c rest =>
    by_cases inName : isNameChar c
    · simp [inName]
    · simp [inName]

/-- No word begins another one. -/
theorem eq_of_prefix {first second : List Char} (firstMember : first ∈ whenWord :: reservedWords)
    (secondMember : second ∈ whenWord :: reservedWords) (front : first <+: second) :
    first = second := by
  have apart : (whenWord :: reservedWords).Pairwise fun first second =>
      ¬first <+: second ∧ ¬second <+: first := by
    decide +kernel
  have symmetric : Std.Symm fun first second : List Char =>
      ¬first <+: second ∧ ¬second <+: first := ⟨fun _ _ both => ⟨both.2, both.1⟩⟩
  by_contra different
  exact (apart.forall firstMember secondMember different).1 front

theorem append_notMem {word : List Char} (member : word ∈ whenWord :: reservedWords)
    {more : List Char} (goesOn : more ≠ []) : word ++ more ∉ whenWord :: reservedWords := by
  intro longer
  have same := eq_of_prefix member longer (List.prefix_append _ _)
  exact goesOn (List.self_eq_append_right.mp same)

theorem isNameChar_of_reserved {word : List Char} (member : word ∈ whenWord :: reservedWords) :
    word ≠ [] ∧ ∀ c ∈ word, isNameChar c = true := by
  have all : (whenWord :: reservedWords).all
      (fun word => !word.isEmpty && word.all isNameChar) = true := by
    decide
  have accepted := List.all_eq_true.mp all word member
  rw [Bool.and_eq_true, Bool.not_eq_true', List.isEmpty_eq_false_iff, List.all_eq_true] at accepted
  exact accepted

theorem reserved_of_control {word : List Char} (member : word ∈ controlWords) :
    word ∈ whenWord :: reservedWords :=
  List.mem_cons_of_mem _ (List.mem_append_left _ (List.mem_append_left _ member))

section Words
variable {rule : Rule} {body : Tree} {count : Nat} {cls : TokenClass} {spelled : List (List Char)}
  (simple : body.Simple) (reads : body.Reads (.words spelled))
  (pattern : rule.pattern = .atStart body count) (labelling : rule.labelling = .whole cls)
  (barred : rule.barred? = some isNameChar) (reserved : spelled ⊆ reservedWords)
include simple reads pattern labelling barred reserved

/-- A rule for words takes the run of name characters as a whole if it is one of them. -/
theorem match?_words (offset : Nat) (text : List Char) :
    rule.match? offset text =
      if text.takeWhile isNameChar ∈ spelled then
        some ⟨(text.takeWhile isNameChar).length,
          [.ofText cls (text.takeWhile isNameChar) offset]⟩
      else none := by
  rcases rule.match?_whole_cases simple reads pattern labelling offset text with
    ⟨nothing, none⟩ | ⟨word, rest, member, rfl, decided⟩
  · rw [none, if_neg]
    intro run
    have found := Phrases.mem_words.mpr ⟨run, List.takeWhile_prefix isNameChar⟩
    rw [nothing] at found
    cases found
  · have wordMember := (Phrases.mem_words.mp member).1
    have wordReserved := List.mem_cons_of_mem whenWord (reserved wordMember)
    obtain ⟨nonempty, all⟩ := isNameChar_of_reserved wordReserved
    have mayEnd := mayEndBefore_iff barred rest
    rw [decided, List.takeWhile_append_of_pos all]
    by_cases ends : rest.takeWhile isNameChar = []
    · simp [mayEnd, ends, nonempty, wordMember]
    · -- A name that goes on spells no other word, for no word begins another one.
      have other : word ++ rest.takeWhile isNameChar ∉ spelled := fun longer =>
        append_notMem wordReserved ends (List.mem_cons_of_mem _ (reserved longer))
      simp [mayEnd, ends, other]

end Words

/-! ## The rules for words -/

open Highlighter.Tree (Reads)

theorem builtinTree_reads : builtinTree.Reads (.words outputWords) := by
  have reads := (Reads.literal ['s', 'c', 'r']).andThen
    ((Reads.chars iSet).andThen (.literal ['o', 'b', 'h']))
  rw [i_words, Phrases.words_andThen, Phrases.words_andThen] at reads
  exact reads

theorem atomTree_reads : atomTree.Reads (.words truthWords) := by
  have reads := ((Reads.literal ['f']).andThen
    ((Reads.chars iSet).andThen (.literal ['o', 'r']))).orElse (.literal ['b', 'r', 'e', 'a', 'g'])
  rw [i_words, Phrases.words_andThen, Phrases.words_andThen, Phrases.words_orElse] at reads
  exact reads

theorem builtinRule_match? (offset : Nat) (text : List Char) :
    builtinRule.match? offset text =
      if text.takeWhile isNameChar ∈ outputWords then
        some ⟨(text.takeWhile isNameChar).length,
          [.ofText .builtin (text.takeWhile isNameChar) offset]⟩
      else none :=
  match?_words (.of_isSimple (by decide)) builtinTree_reads rfl rfl rfl
    (fun _ member => List.mem_append_left _ (List.mem_append_right _ member)) offset text

theorem atomRule_match? (offset : Nat) (text : List Char) :
    atomRule.match? offset text =
      if text.takeWhile isNameChar ∈ truthWords then
        some ⟨(text.takeWhile isNameChar).length,
          [.ofText .atom (text.takeWhile isNameChar) offset]⟩
      else none :=
  match?_words (.of_isSimple (by decide)) atomTree_reads rfl rfl rfl
    (fun _ member => List.mem_append_right _ member) offset text

/-! ## The rule for reserved words of control -/

def pairPhrases : Phrases :=
  (Phrases.words [whenWord]).andThen ((Phrases.someRun isLineSpace).andThen (.words [['a']]))

def keywordPhrases : Phrases :=
  (Phrases.words (functionWords ++ [['m', 'á'], ['l', 'e'], ['b', 'r', 'i', 's'],
    ['i', 'd', 'i', 'r']])).orElse (pairPhrases.orElse (.words [['n', 'ó']]))

theorem keywordTree_reads : keywordTree.Reads keywordPhrases := by
  have pair := (Reads.literal ['n', 'u', 'a', 'i', 'r']).andThen
    ((Reads.someRun_of spaceSet_contains).andThen (.literal ['a']))
  have reads := functionWordTree_reads.orElse ((Reads.literal ['m', 'á']).orElse
    ((Reads.literal ['l', 'e']).orElse ((Reads.literal ['b', 'r', 'i', 's']).orElse
      ((Reads.literal ['i', 'd', 'i', 'r']).orElse (pair.orElse (.literal ['n', 'ó']))))))
  simp only [← Phrases.orElse_assoc, Phrases.words_orElse] at reads
  rw [Phrases.orElse_assoc] at reads
  exact reads

theorem mem_pairPhrases {text phrase : List Char} :
    phrase ∈ pairPhrases text ↔ ∃ space rest, text = whenWord ++ (space ++ 'a' :: rest) ∧
      phrase = whenWord ++ (space ++ ['a']) ∧ space ≠ [] ∧ ∀ c ∈ space, isLineSpace c = true := by
  constructor
  · intro member
    obtain ⟨first, firstFound, back, backFound, rfl⟩ := Phrases.mem_andThen.mp member
    obtain ⟨isWhen, afterWhen, rfl⟩ := Phrases.mem_words.mp firstFound
    rw [List.mem_singleton.mp isWhen] at backFound ⊢
    rw [List.drop_left] at backFound
    obtain ⟨space, spaceFound, last, lastFound, rfl⟩ := Phrases.mem_andThen.mp backFound
    obtain ⟨nonempty, ⟨afterSpace, rfl⟩, all⟩ := Phrases.mem_someRun.mp spaceFound
    rw [List.drop_left] at lastFound
    obtain ⟨isLast, rest, rfl⟩ := Phrases.mem_words.mp lastFound
    rw [List.mem_singleton.mp isLast]
    exact ⟨space, rest, rfl, rfl, nonempty, all⟩
  · rintro ⟨space, rest, rfl, rfl, nonempty, all⟩
    have last : ['a'] ∈ Phrases.words [['a']] ('a' :: rest) :=
      Phrases.mem_words.mpr ⟨List.mem_cons_self, rest, rfl⟩
    have back : space ++ ['a'] ∈ ((Phrases.someRun isLineSpace).andThen (.words [['a']]))
        (space ++ 'a' :: rest) := by
      refine Phrases.mem_andThen.mpr ⟨space, ?_, ['a'], ?_, rfl⟩
      · exact Phrases.mem_someRun.mpr ⟨nonempty, List.prefix_append _ _, all⟩
      · rw [List.drop_left]
        exact last
    refine Phrases.mem_andThen.mpr ⟨whenWord, ?_, space ++ ['a'], ?_, rfl⟩
    · exact Phrases.mem_words.mpr ⟨List.mem_cons_self, List.prefix_append _ _⟩
    · rw [List.drop_left]
      exact back

theorem mem_keywordPhrases {text phrase : List Char} :
    phrase ∈ keywordPhrases text ↔
      (phrase ∈ controlWords ∧ phrase <+: text) ∨ phrase ∈ pairPhrases text := by
  have all : controlWords = functionWords ++ [['m', 'á'], ['l', 'e'], ['b', 'r', 'i', 's'],
      ['i', 'd', 'i', 'r']] ++ [['n', 'ó']] := by
    decide
  rw [all]
  simp only [keywordPhrases, Phrases.orElse, List.mem_append, Phrases.mem_words]
  tauto

section Pair
variable {space : List Char} (nonempty : space ≠ []) (all : ∀ c ∈ space, isLineSpace c = true)
include nonempty all

theorem takeWhile_whenWord (text : List Char) :
    (whenWord ++ (space ++ text)).takeWhile isNameChar = whenWord ∧
      (whenWord ++ (space ++ text)).dropWhile isNameChar = space ++ text := by
  refine Phrases.takeWhile_append_ends (isNameChar_of_reserved List.mem_cons_self).2 ?_
  obtain ⟨first, others, rfl⟩ := List.exists_cons_of_ne_nil nonempty
  intro c next
  cases next
  exact not_isNameChar_of_isLineSpace (all first List.mem_cons_self)

/-- Where the first word of the pair, white space and the second word follow each other, they are
the pair unless the second goes on. -/
theorem pairAt?_append (rest : List Char) :
    pairAt? (whenWord ++ (space ++ 'a' :: rest)) =
      if rest.takeWhile isNameChar = [] then some (whenWord ++ (space ++ ['a'])) else none := by
  obtain ⟨word, afterWord⟩ := takeWhile_whenWord nonempty all ('a' :: rest)
  have lastHead : ∀ c ∈ ('a' :: rest).head?, isLineSpace c = false := by
    intro c next
    cases next
    rfl
  obtain ⟨blank, afterBlank⟩ := Phrases.takeWhile_append_ends all lastHead
  unfold pairAt?
  rw [word, afterWord, blank, afterBlank]
  have inName : isNameChar 'a' = true := by decide
  by_cases ends : rest.takeWhile isNameChar = []
  · simp [inName, ends, nonempty]
  · simp [inName, ends]

end Pair

theorem exists_of_pairAt? {text pair : List Char} (found : pairAt? text = some pair) :
    ∃ space rest, text = whenWord ++ (space ++ 'a' :: rest) ∧
      pair = whenWord ++ (space ++ ['a']) ∧ space ≠ [] ∧ ∀ c ∈ space, isLineSpace c = true := by
  unfold pairAt? at found
  dsimp only at found
  split at found
  · rename_i spelled
    obtain ⟨first, nonempty, next⟩ := spelled
    have last := List.takeWhile_append_dropWhile (p := isNameChar)
      (l := (text.dropWhile isNameChar).dropWhile isLineSpace)
    have after := List.takeWhile_append_dropWhile (p := isLineSpace)
      (l := text.dropWhile isNameChar)
    have whole := List.takeWhile_append_dropWhile (p := isNameChar) (l := text)
    rw [next] at last found
    rw [← last] at after
    rw [first, ← after] at whole
    cases found
    refine ⟨_, _, whole.symm, List.append_assoc _ _ _, nonempty, ?_⟩
    exact fun c member => List.mem_takeWhile_imp member
  · cases found

theorem pairAt?_eq_none {text : List Char} (other : text.takeWhile isNameChar ≠ whenWord) :
    pairAt? text = none := by
  unfold pairAt?
  exact if_neg fun spelled => other spelled.1

/-- The reserved word of control that a text begins with, if it begins with one. -/
def keywordAt? (text : List Char) : Option (List Char) :=
  if text.takeWhile isNameChar ∈ controlWords then some (text.takeWhile isNameChar)
  else pairAt? text

theorem keywordAt?_eq_none {text : List Char} (nothing : keywordPhrases text = []) :
    keywordAt? text = none := by
  have noControl : text.takeWhile isNameChar ∉ controlWords := by
    intro control
    have found := mem_keywordPhrases.mpr (.inl ⟨control, List.takeWhile_prefix isNameChar⟩)
    rw [nothing] at found
    cases found
  unfold keywordAt?
  rw [if_neg noControl]
  refine Option.eq_none_iff_forall_not_mem.mpr fun pair spelled => ?_
  have found := mem_keywordPhrases.mpr (.inr (mem_pairPhrases.mpr (exists_of_pairAt? spelled)))
  rw [nothing] at found
  cases found

theorem keywordAt?_control {word : List Char} (control : word ∈ controlWords)
    (rest : List Char) :
    keywordAt? (word ++ rest) = if rest.takeWhile isNameChar = [] then some word else none := by
  have reserved := reserved_of_control control
  have all := (isNameChar_of_reserved reserved).2
  unfold keywordAt?
  rw [List.takeWhile_append_of_pos all]
  by_cases ends : rest.takeWhile isNameChar = []
  · simp [ends, control]
  · have longer := append_notMem reserved ends
    have noControl : word ++ rest.takeWhile isNameChar ∉ controlWords :=
      fun among => longer (reserved_of_control among)
    have noPair : pairAt? (word ++ rest) = none := by
      refine pairAt?_eq_none ?_
      rw [List.takeWhile_append_of_pos all]
      exact fun same => longer (same ▸ List.mem_cons_self)
    simp [ends, noControl, noPair]

/-- What the pattern takes is the reserved word unless a word goes on after it. -/
theorem keywordAt?_append {phrase rest : List Char}
    (member : phrase ∈ keywordPhrases (phrase ++ rest)) :
    phrase ≠ [] ∧ keywordAt? (phrase ++ rest)
      = if rest.takeWhile isNameChar = [] then some phrase else none := by
  rcases mem_keywordPhrases.mp member with ⟨control, -⟩ | pair
  · exact ⟨(isNameChar_of_reserved (reserved_of_control control)).1,
      keywordAt?_control control rest⟩
  · obtain ⟨space, tail, whole, rfl, nonempty, all⟩ := mem_pairPhrases.mp pair
    have same : whenWord ++ (space ++ ['a']) ++ rest = whenWord ++ (space ++ 'a' :: rest) := by
      simp
    have noControl : whenWord ∉ controlWords := by decide
    refine ⟨List.append_ne_nil_of_left_ne_nil (List.cons_ne_nil _ _) _, ?_⟩
    unfold keywordAt?
    rw [same, (takeWhile_whenWord nonempty all _).1, if_neg noControl]
    exact pairAt?_append nonempty all rest

theorem keywordRule_match? (offset : Nat) (text : List Char) :
    keywordRule.match? offset text = (keywordAt? text).map fun phrase =>
      ⟨phrase.length, [.ofText .keyword phrase offset]⟩ := by
  have simple : keywordTree.Simple := .of_isSimple (by decide)
  rcases keywordRule.match?_whole_cases simple keywordTree_reads rfl rfl offset text with
    ⟨nothing, none⟩ | ⟨phrase, rest, member, rfl, decided⟩
  · rw [none, keywordAt?_eq_none nothing]
    rfl
  · have mayEnd := mayEndBefore_iff (show keywordRule.barred? = some isNameChar from rfl) rest
    obtain ⟨nonempty, same⟩ := keywordAt?_append member
    rw [decided, same]
    by_cases ends : rest.takeWhile isNameChar = []
    · simp [mayEnd, ends, nonempty]
    · simp [mayEnd, ends]

/-! ## The other rules where a word begins -/

theorem blockWords_subset : blockWords ⊆ controlWords := by
  decide

theorem blockKeywordRule_eq_none {text : List Char}
    (other : text.takeWhile isNameChar ∉ blockWords) (offset : Nat) :
    blockKeywordRule.match? offset text = none := by
  have firstReads := (Reads.literal ['m', 'á']).orElse (.literal ['n', 'ó'])
  have secondReads := (Reads.chars blockSet).orElse .lineEnd
  rw [Phrases.words_orElse] at firstReads
  rw [Phrases.one_pair (by decide) blockSet_contains] at secondReads
  have simple : blockKeywordTree.Simple := .of_isSimple (by decide)
  refine Rule.match?_row_eq_none simple firstReads (.cons secondReads .nil) rfl ?_ offset
  refine List.eq_nil_iff_forall_not_mem.mpr fun taken member => ?_
  obtain ⟨word, tail, later, wordFound, rfl, others⟩ := firstReads.exists_of_mem_row member
  obtain ⟨mark, rest, -, markFound, rfl, -⟩ := secondReads.exists_of_mem_row others
  have ends : (mark ++ rest).takeWhile isNameChar = [] := by
    rcases List.mem_append.mp markFound with opens | atEnd
    · have isMark := (Phrases.mem_words.mp opens).1
      simp only [List.mem_cons, List.not_mem_nil, or_false] at isMark
      rcases isMark with rfl | rfl
      · rfl
      · rfl
    · exact Phrases.takeWhile_of_mem_lineEnd rfl atEnd
  have opens : word ∈ blockWords := (Phrases.mem_words.mp wordFound).1
  have all := (isNameChar_of_reserved (reserved_of_control (blockWords_subset opens))).2
  rw [List.takeWhile_append_of_pos all, ends, List.append_nil] at other
  exact other opens

theorem numberRule_eq_none {c : Char} (inName : isNameChar c = true) (rest : List Char)
    (offset : Nat) : numberRule.match? offset (c :: rest) = none := by
  have simple : numberTree.Simple := .of_isSimple (by decide)
  rw [Rule.match?_whole simple numberTree_reads rfl rfl, numberPhrases_eq_nil inName]
  rfl

theorem operatorRule_eq_none {c : Char} (inName : isNameChar c = true) (rest : List Char)
    (offset : Nat) : operatorRule.match? offset (c :: rest) = none := by
  obtain ⟨-, -, operator, -⟩ := not_contains_of_isNameChar inName
  have simple : (Tree.run operatorSet).Simple := .loop true true operatorSet
  rw [Rule.match?_whole simple (.someRun operatorSet) rfl rfl, Phrases.someRun_cons, operator]
  rfl

theorem identifierRule_match? (offset : Nat) (text : List Char) :
    identifierRule.match? offset text =
      if text.takeWhile isNameChar = [] then none
      else some ⟨(text.takeWhile isNameChar).length,
        [.ofText .identifier (text.takeWhile isNameChar) offset]⟩ :=
  Rule.match?_someRun (.loop true true nameSet) (.someRun_of nameSet_contains) rfl rfl rfl offset
    text

/-! ## Words in a text -/

theorem head?_of_takeWhile_eq_nil {text : List Char} (ends : text.takeWhile isNameChar = []) :
    ∀ c ∈ text.head?, isNameChar c = false := by
  intro c first
  cases text with
  | nil => cases first
  | cons d rest =>
    cases first
    by_contra inName
    simp [inName] at ends

theorem pairAt?_ends {text pair : List Char} (found : pairAt? text = some pair) :
    ∀ c ∈ (text.drop pair.length).head?, isNameChar c = false := by
  obtain ⟨space, rest, rfl, rfl, nonempty, all⟩ := exists_of_pairAt? found
  rw [pairAt?_append nonempty all] at found
  have same : whenWord ++ (space ++ 'a' :: rest) = whenWord ++ (space ++ ['a']) ++ rest := by
    simp
  rw [same, List.drop_left]
  by_cases ends : rest.takeWhile isNameChar = []
  · exact head?_of_takeWhile_eq_nil ends
  · rw [if_neg ends] at found
    cases found

/-- No word goes on after its token. -/
theorem wordAt_ends (text : List Char) :
    ∀ c ∈ (text.drop (wordAt text).2.length).head?, isNameChar c = false := by
  have run : ∀ c ∈ (text.drop (text.takeWhile isNameChar).length).head?,
      isNameChar c = false := by
    intro c first
    have left : text.drop (text.takeWhile isNameChar).length = text.dropWhile isNameChar :=
      calc text.drop (text.takeWhile isNameChar).length
        _ = (text.takeWhile isNameChar ++ text.dropWhile isNameChar).drop
              (text.takeWhile isNameChar).length := by rw [List.takeWhile_append_dropWhile]
        _ = text.dropWhile isNameChar := List.drop_left
    have other := List.head?_dropWhile_not isNameChar text
    rw [← left, Option.mem_def.mp first] at other
    exact other
  unfold wordAt
  dsimp only
  split
  · exact run
  · split
    · rename_i pair found
      exact pairAt?_ends found
    · split
      · exact run
      · split
        · exact run
        · exact run

theorem wordAt_cls (text : List Char) :
    (wordAt text).1 ∈ [TokenClass.keyword, .builtin, .atom, .identifier] := by
  unfold wordAt
  dsimp only
  split
  · simp
  · split
    · simp
    · split
      · simp
      · split <;> simp

/-- A word has no other characters than those of names and the white space in the pair of words. -/
theorem wordAt_chars (text : List Char) :
    ∀ c ∈ (wordAt text).2, isNameChar c = true ∨ isLineSpace c = true := by
  have run : ∀ c ∈ text.takeWhile isNameChar, isNameChar c = true ∨ isLineSpace c = true :=
    fun c member => .inl (List.mem_takeWhile_imp member)
  have pair : ∀ pair, pairAt? text = some pair →
      ∀ c ∈ pair, isNameChar c = true ∨ isLineSpace c = true := by
    intro pair found c member
    obtain ⟨space, rest, -, rfl, -, all⟩ := exists_of_pairAt? found
    have word : ∀ c ∈ whenWord, isNameChar c = true := List.all_eq_true.mp (by decide +kernel)
    simp only [List.mem_append, List.mem_singleton] at member
    rcases member with inWord | inSpace | rfl
    · exact .inl (word c inWord)
    · exact .inr (all c inSpace)
    · exact .inl rfl
  unfold wordAt
  dsimp only
  split
  · exact run
  · split
    · rename_i phrase found
      exact pair phrase found
    · split
      · exact run
      · split
        · exact run
        · exact run

theorem wordAt_identifier {text : List Char} (identifier : (wordAt text).1 = .identifier) :
    (wordAt text).2 ∉ reservedWords := by
  unfold wordAt at identifier ⊢
  dsimp only at identifier ⊢
  split at identifier
  · cases identifier
  · rename_i control
    split at identifier
    · cases identifier
    · rename_i pair
      split at identifier
      · cases identifier
      · rename_i output
        split at identifier
        · cases identifier
        · rename_i truth
          rw [if_neg control]
          simp [reservedWords, output, truth, control]

/-- A step that begins with a character of names, and not with a header, takes the word there. -/
theorem step_word {offset : Nat} {c : Char} {rest : List Char} (inName : isNameChar c = true)
    (noHeader : functionHeaderRule.match? offset (c :: rest) = none) :
    (table.step offset c rest).tokens
        = [.ofText (wordAt (c :: rest)).1 (wordAt (c :: rest)).2 offset] ∧
      (table.step offset c rest).length = (wordAt (c :: rest)).2.length := by
  -- A rule that does not match leaves the word to the next, in the order of the table.
  have keyword := keywordRule_match? offset (c :: rest)
  unfold keywordAt? at keyword
  unfold wordAt
  by_cases control : (c :: rest).takeWhile isNameChar ∈ controlWords
  · rw [if_pos control, Option.map_some] at keyword
    rw [table.step_of_match? [functionHeaderRule] rfl (by simp [noHeader]) keyword]
    simp [control]
  · rw [if_neg control] at keyword
    cases pair : pairAt? (c :: rest) with
    | some phrase =>
      rw [pair, Option.map_some] at keyword
      rw [table.step_of_match? [functionHeaderRule] rfl (by simp [noHeader]) keyword]
      simp [control]
    | none =>
      rw [pair, Option.map_none] at keyword
      have builtin := builtinRule_match? offset (c :: rest)
      by_cases output : (c :: rest).takeWhile isNameChar ∈ outputWords
      · rw [if_pos output] at builtin
        rw [table.step_of_match? [functionHeaderRule, keywordRule] rfl
          (by simp [noHeader, keyword]) builtin]
        simp [control, output]
      · rw [if_neg output] at builtin
        have block :=
          blockKeywordRule_eq_none (fun opens => control (blockWords_subset opens)) offset
        have atom := atomRule_match? offset (c :: rest)
        by_cases truth : (c :: rest).takeWhile isNameChar ∈ truthWords
        · rw [if_pos truth] at atom
          rw [table.step_of_match? [functionHeaderRule, keywordRule, builtinRule,
            blockKeywordRule] rfl (by simp [noHeader, keyword, builtin, block]) atom]
          simp [control, output, truth]
        · rw [if_neg truth] at atom
          have number := numberRule_eq_none inName rest offset
          have operator := operatorRule_eq_none inName rest offset
          have identifier := identifierRule_match? offset (c :: rest)
          rw [if_neg (by simp [inName])] at identifier
          rw [table.step_of_match? [functionHeaderRule, keywordRule, builtinRule,
            blockKeywordRule, atomRule, numberRule, operatorRule] rfl
            (by simp [noHeader, keyword, builtin, block, atom, number, operator]) identifier]
          simp [control, output, truth]

/-- Only the last rule makes names. -/
theorem table_dropLast : ∀ rule ∈ table.rules.dropLast,
    TokenClass.identifier ∉ rule.labelling.classes := by
  decide

theorem no_header_of_decision {offset : Nat} {c : Char} {rest : List Char}
    (decision : (table.step offset c rest).decision ≠ .matched "function_header") :
    functionHeaderRule.match? offset (c :: rest) = none := by
  refine Option.eq_none_iff_forall_not_mem.mpr fun found finds => decision ?_
  rw [table.step_of_match? [] rfl (fun _ none => nomatch none) finds]
  rfl

theorem notMem_of_identifier {offset : Nat} {c : Char} {rest : List Char} {token : Token}
    (member : token ∈ (table.step offset c rest).tokens) (identifier : token.cls = .identifier) :
    token.text ∉ reservedWords := by
  rcases table.step_cases offset c rest with ⟨rule, among, found, finds, same⟩ | ⟨_, same⟩
  · have own : token ∈ found.tokens := by
      rw [same] at member
      exact member
    have rules : table.rules = table.rules.dropLast ++ [identifierRule] := rfl
    rw [rules] at among
    rcases List.mem_append.mp among with earlier | last
    · have cls := Rule.match?_cls finds token own
      rw [identifier] at cls
      exact absurd cls (table_dropLast rule earlier)
    · rw [List.mem_singleton.mp last] at finds same
      have inName : isNameChar c = true := by
        by_contra other
        rw [identifierRule_match?, if_pos (by simp [other])] at finds
        cases finds
      have decision : (table.step offset c rest).decision ≠ .matched "function_header" := by
        rw [same]
        exact (by decide : Decision.matched identifierRule.name ≠ .matched "function_header")
      rw [(step_word inName (no_header_of_decision decision)).1] at member
      rw [List.mem_singleton.mp member] at identifier ⊢
      exact wordAt_identifier identifier
  · rw [same] at member
    rw [List.mem_singleton.mp member] at identifier
    cases identifier

/-- Where a step begins with a character of names and not with a header, it makes one token, which
is a word as a whole.  No reserved word is a name. -/
theorem word_steps : ∃ table, RuleTable.setanta = .ok table ∧ ∀ text,
    (∀ step ∈ table.steps text, ∃ rest, Utf8.drop? step.offset text = some rest ∧
      ∀ c ∈ rest.head?, isNameChar c = true → step.decision ≠ .matched "function_header" →
        step.tokens = [.ofText (wordAt rest).1 (wordAt rest).2 step.offset] ∧
        step.length = (wordAt rest).2.length ∧
        ∀ c ∈ (rest.drop step.length).head?, isNameChar c = false) ∧
    ∀ token ∈ table.tokens text, token.cls = .identifier →
      token.text ∉ reservedWords := by
  refine ⟨table, setanta_eq, fun text => ⟨?_, ?_⟩⟩
  · intro step member
    obtain ⟨before, c, rest, rfl, rfl⟩ := RuleTable.mem_steps member
    rw [RuleTable.step_offset]
    refine ⟨c :: rest, Utf8.drop?_size_append before (c :: rest), ?_⟩
    intro d first inName decision
    cases first
    obtain ⟨tokens, length⟩ := step_word inName (no_header_of_decision decision)
    refine ⟨tokens, length, ?_⟩
    rw [length]
    exact wordAt_ends (c :: rest)
  · intro token member identifier
    obtain ⟨step, stepMember, own⟩ := List.mem_flatMap.mp member
    obtain ⟨before, c, rest, rfl, rfl⟩ := RuleTable.mem_steps stepMember
    exact notMem_of_identifier own identifier

end Highlighter.Setanta
