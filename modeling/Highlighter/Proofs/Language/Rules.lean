import Highlighter.Proofs.Language.Alphabet
import Highlighter.Proofs.Pattern.FirstReading
import Highlighter.Proofs.Pattern.Phrases
import Highlighter.Proofs.Scan.Coverage
import Highlighter.Proofs.Scan.LineByLine

/-!
# The rules of Setanta as trees

The patterns of the eight rules are read once for all.  Their trees are simple,
begin at the start of the text and take no line feed, so the language is divided
alike as a whole and line by line.
-/

set_option autoImplicit false

namespace Highlighter

theorem Pattern.ofText_eq {text : String} {pattern : Pattern}
    (parsed : (Pattern.ofText text).toOption = some pattern) :
    Pattern.ofText text = .ok pattern := by
  cases read : Pattern.ofText text with
  | error cause =>
    rw [read] at parsed
    cases parsed
  | ok other =>
    rw [read] at parsed
    cases parsed
    rfl

namespace Rule

variable {name text : String} (pattern : Pattern)

theorem ofText_whole (parsed : (Pattern.ofText text).toOption = some pattern) (cls : TokenClass) :
    ofText name text (.whole cls) = .ok ⟨name, pattern, .whole cls, none⟩ := by
  unfold ofText
  rw [Pattern.ofText_eq parsed]

theorem ofText_groups (parsed : (Pattern.ofText text).toOption = some pattern)
    {classes : List (Option TokenClass)} (count : classes.length = pattern.groupCount) :
    ofText name text (.groups classes) = .ok ⟨name, pattern, .groups classes, none⟩ := by
  unfold ofText
  rw [Pattern.ofText_eq parsed]
  dsimp only
  rw [if_pos count]

end Rule

namespace Setanta

/-! ## The trees -/

def functionWordTree : Tree :=
  .andThen (.literal ['g', 'n'])
    (.orElse (.andThen (.chars iSet) (.literal ['o', 'm', 'h'])) (.literal ['í', 'm', 'h']))

def functionHeaderTree : Tree :=
  .row 1 functionWordTree
    [.run spaceSet, .run letterSet, .literal ['('], .loop true false (.chars inLineSet),
      .literal [')']]

def keywordTree : Tree :=
  .orElse functionWordTree
    (.orElse (.literal ['m', 'á'])
      (.orElse (.literal ['l', 'e'])
        (.orElse (.literal ['b', 'r', 'i', 's'])
          (.orElse (.literal ['i', 'd', 'i', 'r'])
            (.orElse
              (.andThen (.literal ['n', 'u', 'a', 'i', 'r'])
                (.andThen (.run spaceSet) (.literal ['a'])))
              (.literal ['n', 'ó']))))))

def builtinTree : Tree :=
  .andThen (.literal ['s', 'c', 'r']) (.andThen (.chars iSet) (.literal ['o', 'b', 'h']))

def blockKeywordTree : Tree :=
  .row 1 (.orElse (.literal ['m', 'á']) (.literal ['n', 'ó']))
    [.orElse (.chars blockSet) (.check .lineEnd)]

def atomTree : Tree :=
  .orElse (.andThen (.literal ['f']) (.andThen (.chars iSet) (.literal ['o', 'r'])))
    (.literal ['b', 'r', 'e', 'a', 'g'])

/-- An option, taken if possible. -/
def option (body : Tree) : Tree := .upTo 1 true body.width body

def fractionTree : Tree :=
  .orElse (.andThen (.literal ['.']) (.run digitSet))
    (.andThen (.run digitSet)
      (.andThen (option (.literal ['.'])) (.loop true false (.chars digitSet))))

def exponentTree : Tree :=
  .andThen (.chars eSet)
    (.andThen (option (.chars signSet)) (.run digitSet))

def numberTree : Tree :=
  .orElse
    (.andThen (.literal ['0'])
      (.andThen (.chars xSet) (.run hexDigitSet)))
    (.andThen (option (.chars signSet)) (.andThen fractionTree (option exponentTree)))

/-! ## The rules -/

def functionHeaderRule : Rule :=
  ⟨"function_header", .atStart functionHeaderTree 6,
    .groups [some .definition, none, some .functionName, none, some .parameterList, none], none⟩

def keywordRule : Rule :=
  ⟨"keyword", .atStart keywordTree 0, .whole .keyword, some isNameChar⟩

def builtinRule : Rule :=
  ⟨"builtin", .atStart builtinTree 0, .whole .builtin, some isNameChar⟩

def blockKeywordRule : Rule :=
  ⟨"block_keyword", .atStart blockKeywordTree 2, .groups [some .keyword, none], none⟩

def atomRule : Rule :=
  ⟨"atom", .atStart atomTree 0, .whole .atom, some isNameChar⟩

def numberRule : Rule :=
  ⟨"number", .atStart numberTree 0, .whole .number, none⟩

def operatorRule : Rule :=
  ⟨"operator", .atStart (.run operatorSet) 0, .whole .operator, none⟩

def identifierRule : Rule :=
  ⟨"identifier", .atStart (.run nameSet) 0, .whole .identifier, none⟩

/-- The table of the language, its patterns read. -/
def table : RuleTable :=
  ⟨[functionHeaderRule, keywordRule, builtinRule, blockKeywordRule, atomRule, numberRule,
    operatorRule, identifierRule]⟩

/-! ## The patterns are read as these trees -/

theorem functionHeader_eq : functionHeader = .ok functionHeaderRule :=
  Rule.ofText_groups (.atStart functionHeaderTree 6) (by decide +kernel) rfl

theorem keyword_eq : keyword = .ok keywordRule := by
  unfold keyword
  rw [Rule.ofText_whole (.atStart keywordTree 0) (by decide +kernel)]
  rfl

theorem builtin_eq : builtin = .ok builtinRule := by
  unfold builtin
  rw [Rule.ofText_whole (.atStart builtinTree 0) (by decide +kernel)]
  rfl

theorem blockKeyword_eq : blockKeyword = .ok blockKeywordRule :=
  Rule.ofText_groups (.atStart blockKeywordTree 2) (by decide +kernel) rfl

theorem atom_eq : atom = .ok atomRule := by
  unfold atom
  rw [Rule.ofText_whole (.atStart atomTree 0) (by decide +kernel)]
  rfl

theorem number_eq : number = .ok numberRule :=
  Rule.ofText_whole (.atStart numberTree 0) (by decide +kernel) .number

theorem operator_eq : operator = .ok operatorRule :=
  Rule.ofText_whole (.atStart (.run operatorSet) 0) (by decide +kernel) .operator

theorem identifier_eq : identifier = .ok identifierRule :=
  Rule.ofText_whole (.atStart (.run nameSet) 0) (by decide +kernel) .identifier

theorem setanta_eq : RuleTable.setanta = .ok table := by
  unfold RuleTable.setanta rules
  rw [functionHeader_eq, keyword_eq, builtin_eq, blockKeyword_eq, atom_eq, number_eq, operator_eq,
    identifier_eq]
  rfl

/-! ## What the trees have in common -/

/-- The trees are simple, begin at the start of the text and take no line feed. -/
theorem table_trees : ∀ rule ∈ table.rules,
    rule.pattern.isAnchored = true ∧ rule.pattern.tree.isSimple = true ∧
      rule.pattern.tree.avoids '\n' = true := by
  decide

theorem table_staysInLine : ∀ rule ∈ table.rules, rule.pattern.StaysInLine := by
  intro rule member text found finds
  obtain ⟨anchored, -, avoids⟩ := table_trees rule member
  exact Pattern.find?_avoids anchored avoids finds

/-- The streams of a text and of its lines hand out the same tokens. -/
theorem tokens_lineByLine : ∃ table, RuleTable.setanta = .ok table ∧
    ∀ text, ∃ lines tokens,
      HandsOut LineStream.next (LineStream.start table text) lines ∧
      HandsOut Stream.next (Stream.start table text) tokens ∧
      lines.flatMap (·.tokens) = tokens := by
  refine ⟨table, setanta_eq, fun text => ⟨table.lines text, table.tokens text, ?_, ?_, ?_⟩⟩
  · exact LineStream.handsOut_linesFrom table 0 0 (Line.split text)
  · exact (Stream.start table text).handsOut_tokensLeft
  · exact table.lines_tokens table_staysInLine text

end Setanta

end Highlighter
