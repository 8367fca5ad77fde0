import Highlighter.Proofs.Language.Rules

/-!
# Numbers

The phrases that the pattern of numbers takes: hexadecimal numbers, and decimal
ones with a sign, a fraction and an exponent.
-/

set_option autoImplicit false

namespace Highlighter.Setanta

open Highlighter.Tree (Reads)

def hexPhrases : Phrases :=
  (Phrases.words [['0']]).andThen
    ((Phrases.one xSet.contains).andThen (.someRun hexDigitSet.contains))

def fractionPhrases : Phrases :=
  ((Phrases.words [['.']]).andThen (.someRun digitSet.contains)).orElse
    ((Phrases.someRun digitSet.contains).andThen
      ((Phrases.optional (.words [['.']])).andThen (.run digitSet.contains)))

def exponentPhrases : Phrases :=
  (Phrases.one eSet.contains).andThen
    ((Phrases.optional (.one signSet.contains)).andThen (.someRun digitSet.contains))

def numberPhrases : Phrases :=
  hexPhrases.orElse ((Phrases.optional (.one signSet.contains)).andThen
    (fractionPhrases.andThen (.optional exponentPhrases)))

theorem numberTree_simple : numberTree.Simple :=
  .of_isSimple (by decide)

theorem numberTree_reads : numberTree.Reads numberPhrases :=
  ((Reads.literal _).andThen ((Reads.chars _).andThen (.someRun _))).orElse
    (((Reads.chars _).optional _).andThen
      ((((Reads.literal _).andThen (.someRun _)).orElse
        ((Reads.someRun _).andThen (((Reads.literal _).optional _).andThen (.anyNumber _)))).andThen
        (((Reads.chars _).andThen (((Reads.chars _).optional _).andThen (.someRun _))).optional _)))

theorem numberPhrases_eq_nil {c : Char} (inName : isNameChar c = true) (rest : List Char) :
    numberPhrases (c :: rest) = [] := by
  obtain ⟨digit, sign, -, point⟩ := not_contains_of_isNameChar inName
  have zero : c ≠ '0' := by
    rintro rfl
    cases inName
  simp [numberPhrases, hexPhrases, fractionPhrases, Phrases.orElse, Phrases.andThen,
    Phrases.optional, Phrases.words, Phrases.one, Phrases.someRun_cons, List.isPrefixOf, zero.symm,
    point.symm, digit, sign]

end Highlighter.Setanta
