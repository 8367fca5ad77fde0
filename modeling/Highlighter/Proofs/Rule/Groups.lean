import Highlighter.Proofs.Language.Rules
import Highlighter.Proofs.Pattern.Nesting
import Highlighter.Proofs.Scan.AnyOffset

/-!
# Which group gives a byte its class

A rule that labels by groups takes the groups of a match in the order of their
numbers and leaves out those that begin before the end of one already taken.
A byte has the class of the group taken that holds it.

That is the lowest-numbered group that holds the byte, with one exception.  Where
a repetition goes through several groups, one with a lower number may have been
recorded further on in the text than one with a higher number; the latter is then
left out although nothing that was taken holds its text, which stays plain.
-/

set_option autoImplicit false

namespace Highlighter

namespace Token

def Holds (token : Token) (byte : Nat) : Prop := token.start ≤ byte ∧ byte < token.stop

end Token

theorem Tiles.exists_holds {offset : Nat} {text : List Char} {tokens : List Token}
    (tiles : Tiles offset text tokens) : ∀ byte, offset ≤ byte → byte < offset + Utf8.size text →
      ∃ token ∈ tokens, token.Holds byte := by
  induction tiles with
  | done offset =>
    intro byte lower upper
    exact absurd upper (Nat.not_lt_of_le lower)
  | @next offset segment rest tokens cls nonempty later inductionHypothesis =>
    intro byte lower upper
    by_cases inside : byte < offset + Utf8.size segment
    · exact ⟨_, List.mem_cons_self, lower, inside⟩
    · rw [Utf8.size_append, ← Nat.add_assoc] at upper
      obtain ⟨token, member, holds⟩ := inductionHypothesis byte (Nat.le_of_not_lt inside) upper
      exact ⟨token, List.mem_cons_of_mem _ member, holds⟩

/-- Where a group took part in a match, and the class of what stands there. -/
structure Region where
  cls : TokenClass
  span : Span
  deriving DecidableEq, Repr

/-- The regions of the groups that took part, in the order of their numbers, which begin with
`number`. -/
def Match.regions (found : Match) (number : Nat) : List (Option TokenClass) → List Region
  | [] => []
  | cls :: classes =>
    match found.group? number with
    | none => found.regions (number + 1) classes
    | some span => ⟨cls.getD .plain, span⟩ :: found.regions (number + 1) classes

theorem Match.exists_group? {found : Match} {region : Region}
    (classes : List (Option TokenClass)) : ∀ number, region ∈ found.regions number classes →
      ∃ index, found.group? index = some region.span := by
  induction classes with
  | nil => exact fun _ member => nomatch member
  | cons cls classes inductionHypothesis =>
    intro number member
    unfold regions at member
    split at member
    · exact inductionHypothesis (number + 1) member
    · rename_i span present
      rcases List.mem_cons.mp member with same | later
      · exact ⟨number, same ▸ present⟩
      · exact inductionHypothesis (number + 1) later

namespace Region

open Labelling (byteAt)

/-- The byte `byte` of the source is in the region, where `text` begins at byte `offset`. -/
def Holds (text : List Char) (offset byte : Nat) (region : Region) : Prop :=
  byteAt text offset region.span.start ≤ byte ∧ byte < byteAt text offset region.span.stop

instance (text : List Char) (offset byte : Nat) : DecidablePred (Holds text offset byte) :=
  fun _ => inferInstanceAs (Decidable (_ ∧ _))

/-- The class that the first region gives to a byte that it holds; plain if none holds it. -/
def classAt (text : List Char) (offset byte : Nat) (regions : List Region) : TokenClass :=
  ((regions.find? fun region => region.Holds text offset byte).map (·.cls)).getD .plain

/-- The regions that are taken from character `cursor` on. -/
def kept (cursor : Nat) : List Region → List Region
  | [] => []
  | region :: regions =>
    if region.span.start < region.span.stop ∧ cursor ≤ region.span.start then
      region :: kept region.span.stop regions
    else kept cursor regions

/-- The end of the last region that is taken. -/
def reached (cursor : Nat) : List Region → Nat
  | [] => cursor
  | region :: regions =>
    if region.span.start < region.span.stop ∧ cursor ≤ region.span.start then
      reached region.span.stop regions
    else reached cursor regions

/-! ## Places and bytes -/

section Bytes
variable {text : List Char} {offset byte : Nat}

theorem byteAt_mono (text : List Char) (offset : Nat) {start stop : Nat} (order : start ≤ stop) :
    byteAt text offset start ≤ byteAt text offset stop := by
  rw [← Labelling.byteAt_between text offset order]
  exact Nat.le_add_right _ _

theorem not_holds_of_lt {region : Region} {place : Nat} (behind : byte < byteAt text offset place)
    (order : place ≤ region.span.start) : ¬region.Holds text offset byte := fun holds =>
  Nat.not_lt_of_le holds.1 (Nat.lt_of_lt_of_le behind (byteAt_mono text offset order))

theorem Holds.of_inside {inner outer : Region} (holds : inner.Holds text offset byte)
    (inside : inner.span.Inside outer.span) : outer.Holds text offset byte :=
  ⟨Nat.le_trans (byteAt_mono text offset inside.1) holds.1,
    Nat.lt_of_lt_of_le holds.2 (byteAt_mono text offset inside.2)⟩

theorem Holds.start_lt_stop {region : Region} (holds : region.Holds text offset byte) :
    region.span.start < region.span.stop := by
  by_contra empty
  have order := byteAt_mono text offset (Nat.le_of_not_lt empty)
  exact Nat.not_lt_of_le (Nat.le_trans order holds.1) holds.2

theorem classAt_of_none {regions : List Region}
    (none : ∀ region ∈ regions, ¬region.Holds text offset byte) :
    classAt text offset byte regions = .plain := by
  have nothing : regions.find? (fun region => region.Holds text offset byte) = .none := by
    simpa using none
  unfold classAt
  rw [nothing]
  rfl

theorem classAt_cons_of_holds {regions : List Region} {region : Region}
    (holds : region.Holds text offset byte) :
    classAt text offset byte (region :: regions) = region.cls := by
  simp [classAt, holds]

theorem classAt_cons_of_not {regions : List Region} {region : Region}
    (elsewhere : ¬region.Holds text offset byte) :
    classAt text offset byte (region :: regions) = classAt text offset byte regions := by
  simp [classAt, elsewhere]

theorem classAt_append_cons {lower higher : List Region} {region : Region}
    (none : ∀ earlier ∈ lower, ¬earlier.Holds text offset byte)
    (holds : region.Holds text offset byte) :
    classAt text offset byte (lower ++ region :: higher) = region.cls := by
  induction lower with
  | nil => exact classAt_cons_of_holds holds
  | cons earlier lower inductionHypothesis =>
    rw [List.cons_append, classAt_cons_of_not (none earlier List.mem_cons_self)]
    exact inductionHypothesis fun other member => none other (List.mem_cons_of_mem _ member)

end Bytes

/-! ## Which regions are taken -/

theorem kept_sublist (regions : List Region) : ∀ cursor, (kept cursor regions).Sublist regions := by
  induction regions with
  | nil => exact fun _ => .slnil
  | cons region regions inductionHypothesis =>
    intro cursor
    unfold kept
    split
    · exact .cons_cons region (inductionHypothesis _)
    · exact .cons region (inductionHypothesis cursor)

theorem start_of_mem_kept {region : Region} (regions : List Region) : ∀ cursor,
    region ∈ kept cursor regions →
      region.span.start < region.span.stop ∧ cursor ≤ region.span.start := by
  induction regions with
  | nil => exact fun _ member => nomatch member
  | cons first regions inductionHypothesis =>
    intro cursor member
    unfold kept at member
    split at member
    · rename_i fits
      rcases List.mem_cons.mp member with same | later
      · exact same ▸ fits
      · obtain ⟨filled, order⟩ := inductionHypothesis _ later
        exact ⟨filled, Nat.le_trans fits.2 (Nat.le_trans (Nat.le_of_lt fits.1) order)⟩
    · exact inductionHypothesis cursor member

theorem kept_append (lower higher : List Region) : ∀ cursor,
    kept cursor (lower ++ higher) = kept cursor lower ++ kept (reached cursor lower) higher := by
  induction lower with
  | nil => exact fun _ => rfl
  | cons region lower inductionHypothesis =>
    intro cursor
    rw [List.cons_append, kept, kept, reached]
    split
    · rw [inductionHypothesis, List.cons_append]
    · exact inductionHypothesis cursor

/-- The cursor stays where it is or stands at the end of a region that is taken. -/
theorem reached_cases (regions : List Region) : ∀ cursor, reached cursor regions = cursor ∨
    ∃ region ∈ kept cursor regions, reached cursor regions = region.span.stop := by
  induction regions with
  | nil => exact fun _ => .inl rfl
  | cons region regions inductionHypothesis =>
    intro cursor
    unfold reached kept
    split
    · rcases inductionHypothesis region.span.stop with same | ⟨last, member, stop⟩
      · exact .inr ⟨region, List.mem_cons_self, same⟩
      · exact .inr ⟨last, List.mem_cons_of_mem _ member, stop⟩
    · exact inductionHypothesis cursor

/-! ## The first region and the one taken -/

/-- `left` is the first region that holds a byte, and it is left out since `taken`, which stands
before it in the list, ends behind its start. -/
def LeftOut (text : List Char) (offset byte : Nat) (regions : List Region)
    (left taken : Region) : Prop :=
  ∃ lower higher, regions = lower ++ left :: higher ∧ left.Holds text offset byte ∧
    (∀ region ∈ lower, ¬region.Holds text offset byte) ∧
    taken ∈ kept 0 lower ∧ left.span.start < taken.span.stop

/-- How a byte of a match gets its class from the regions of the groups, where `tokens` are those
of the match. -/
structure Classes (text : List Char) (offset : Nat) (regions : List Region)
    (tokens : List Token) (byte : Nat) : Prop where
  held : ∃ token ∈ tokens, token.Holds byte
  taken : ∀ token ∈ tokens, token.Holds byte →
    token.cls = classAt text offset byte (kept 0 regions)
  /-- The class is that of the first region that holds the byte, unless this region is left out
  for one behind it, which leaves the byte plain, or for one inside it. -/
  first : ∀ token ∈ tokens, token.Holds byte →
    token.cls = classAt text offset byte regions ∨
      ∃ left taken, LeftOut text offset byte regions left taken ∧
        (left.span.Before taken.span ∧ token.cls = .plain ∨ taken.span.Inside left.span)

/-- What is taken gives a byte the class of the first region that holds it, unless that one is
left out. -/
theorem classAt_kept {text : List Char} {offset byte : Nat} {regions : List Region}
    (nests : ∀ first ∈ regions, ∀ second ∈ regions, first.span.Nests second.span) :
    classAt text offset byte (kept 0 regions) = classAt text offset byte regions ∨
      ∃ left taken, LeftOut text offset byte regions left taken ∧
        (left.span.Before taken.span ∧ classAt text offset byte (kept 0 regions) = .plain ∨
          taken.span.Inside left.span) := by
  cases first : regions.find? fun region => region.Holds text offset byte with
  | none =>
    have nowhere : ∀ region ∈ regions, ¬region.Holds text offset byte := by simpa using first
    left
    rw [classAt_of_none nowhere]
    exact classAt_of_none fun region member =>
      nowhere region ((kept_sublist regions 0).subset member)
  | some left =>
    obtain ⟨decided, lower, higher, rfl, earlier⟩ := List.find?_eq_some_iff_append.mp first
    have holds : left.Holds text offset byte := of_decide_eq_true decided
    have none : ∀ region ∈ lower, ¬region.Holds text offset byte := by simpa using earlier
    have noneKept : ∀ region ∈ kept 0 lower, ¬region.Holds text offset byte :=
      fun region member => none region ((kept_sublist lower 0).subset member)
    by_cases room : reached 0 lower ≤ left.span.start
    · left
      rw [kept_append, kept, if_pos ⟨holds.start_lt_stop, room⟩,
        classAt_append_cons noneKept holds, classAt_append_cons none holds]
    · have passed := Nat.lt_of_not_le room
      rcases reached_cases lower 0 with unmoved | ⟨taken, takenKept, last⟩
      · exact absurd (unmoved ▸ passed) (Nat.not_lt_zero _)
      · have among : taken ∈ lower := (kept_sublist lower 0).subset takenKept
        have behind : left.span.start < taken.span.stop := last ▸ passed
        have leftOut : LeftOut text offset byte (lower ++ left :: higher) left taken :=
          ⟨lower, higher, rfl, holds, none, takenKept, behind⟩
        right
        refine ⟨left, taken, leftOut, ?_⟩
        cases nests left (List.mem_append_right _ List.mem_cons_self) taken
            (List.mem_append_left _ among) with
        | before order =>
          -- What is taken after `taken` begins behind the byte too.
          refine .inl ⟨order, classAt_of_none fun region member => ?_⟩
          rw [kept_append] at member
          rcases List.mem_append.mp member with own | later
          · exact noneKept region own
          · have filled := (start_of_mem_kept _ _ takenKept).1
            have start := (start_of_mem_kept _ _ later).2
            refine not_holds_of_lt holds.2 (Nat.le_trans order ?_)
            exact Nat.le_trans (Nat.le_of_lt filled) (last ▸ start)
        | after order => exact absurd behind (Nat.not_lt_of_le order)
        | inside order => exact absurd (holds.of_inside order) (none taken among)
        | around order => exact .inr order

end Region

/-! ## The tokens -/

namespace Labelling

open Region

/-- A token has the class that the regions taken give to each of its bytes. -/
theorem groupTokens_classAt {text : List Char} (offset : Nat) {found : Match}
    (within : found.Within text.length) {token : Token} {byte : Nat} (holds : token.Holds byte)
    (classes : List (Option TokenClass)) : ∀ number cursor, cursor ≤ found.span.stop →
      token ∈ groupTokens text offset found number cursor classes →
        token.cls = classAt text offset byte (kept cursor (found.regions number classes)) := by
  induction classes with
  | nil => exact fun _ _ _ member => gap_cls member
  | cons cls classes inductionHypothesis =>
    intro number cursor order member
    unfold groupTokens at member
    unfold Match.regions
    cases present : found.group? number with
    | none =>
      rw [present] at member
      exact inductionHypothesis (number + 1) cursor order member
    | some span =>
      rw [present] at member
      dsimp only at member ⊢
      obtain ⟨-, -, groupStop⟩ := within.group? present
      have bounded : span.stop ≤ text.length := Nat.le_trans groupStop within.bounded
      unfold kept
      split at member
      · rename_i fits
        rw [if_pos fits]
        rw [List.append_assoc] at member
        rcases List.mem_append.mp member with before | others
        · -- The gap ends before the region and all that are taken later.
          have bounds := (gap_tiles offset fits.2
            (Nat.le_trans (Nat.le_of_lt fits.1) bounded)).bounds token before
          rw [byteAt_between text offset fits.2] at bounds
          have early : byte < byteAt text offset span.start := Nat.lt_of_lt_of_le holds.2 bounds.2
          rw [gap_cls before]
          refine (classAt_of_none fun region among => not_holds_of_lt early ?_).symm
          rcases List.mem_cons.mp among with same | later
          · exact same ▸ Nat.le_refl _
          · exact Nat.le_trans (Nat.le_of_lt fits.1) (start_of_mem_kept _ _ later).2
        · rcases List.mem_append.mp others with own | later
          · obtain rfl := List.mem_singleton.mp own
            have bounds := (stretch_tiles (cls.getD .plain) offset fits.1 bounded).bounds _ own
            rw [byteAt_between text offset (Nat.le_of_lt fits.1)] at bounds
            have inside : Holds text offset byte ⟨cls.getD .plain, span⟩ :=
              ⟨Nat.le_trans bounds.1 holds.1, Nat.lt_of_lt_of_le holds.2 bounds.2⟩
            exact (classAt_cons_of_holds inside).symm
          · have tiles := groupTokens_tiles offset within classes (number + 1) span.stop groupStop
            have late : byteAt text offset span.stop ≤ byte :=
              Nat.le_trans (tiles.bounds token later).1 holds.1
            rw [classAt_cons_of_not fun own => Nat.not_lt_of_le late own.2]
            exact inductionHypothesis (number + 1) span.stop groupStop later
      · rename_i unfit
        rw [if_neg unfit]
        exact inductionHypothesis (number + 1) cursor order member

end Labelling

namespace Rule

open Region

variable {rule : Rule} {classes : List (Option TokenClass)}

/-- A rule that labels by groups gives each byte of its match the class of the group taken that
holds it, which is the lowest-numbered group that holds it unless that one is left out. -/
theorem tokensAt?_classes (labelling : rule.labelling = .groups classes) {text : List Char}
    {offset : Nat} {tokens : List Token} (made : rule.tokensAt? text offset = some tokens) :
    ∃ front rest found, text = front ++ rest ∧ Utf8.size front = offset ∧
      rule.pattern.find? rest = some found ∧
      ∀ byte, offset ≤ byte → byte < offset + Utf8.size (rest.take found.span.stop) →
        Classes rest offset (found.regions 1 classes) tokens byte := by
  obtain ⟨front, rest, found, rfl, rfl, search, nonempty, rfl⟩ := tokensAt?_eq_some made
  have within := rule.pattern.find?_within search
  have tiles := rule.labelling.tokens_tiles (Utf8.size front) within nonempty
  rw [labelling] at tiles ⊢
  have nests : ∀ first ∈ found.regions 1 classes, ∀ second ∈ found.regions 1 classes,
      first.span.Nests second.span := by
    intro first firstMember second secondMember
    obtain ⟨one, firstGroup⟩ := Match.exists_group? classes 1 firstMember
    obtain ⟨other, secondGroup⟩ := Match.exists_group? classes 1 secondMember
    exact rule.pattern.find?_nests search firstGroup secondGroup
  refine ⟨front, rest, found, rfl, rfl, search, fun byte lower upper => ?_⟩
  have taken : ∀ token ∈ Labelling.tokens (.groups classes) (Utf8.size front) rest found,
      token.Holds byte →
        token.cls = classAt rest (Utf8.size front) byte (kept 0 (found.regions 1 classes)) :=
    fun token member holds =>
      Labelling.groupTokens_classAt _ within holds classes 1 0 (Nat.zero_le _) member
  refine ⟨tiles.exists_holds byte lower upper, taken, fun token member holds => ?_⟩
  rw [taken token member holds]
  exact classAt_kept nests

/-- A repetition of two groups, of which the second may be recorded before the first. -/
def alternating : Rule where
  name := "last"
  pattern := .atStart (.loop true true
    (.orElse (.group 1 (.literal ['a'])) (.group 2 (.literal ['b'])))) 2
  labelling := .groups [some .keyword, some .number]
  barred? := none

theorem alternating_classes :
    alternating.tokensAt? ['a', 'b'] 0
        = some [.ofText .keyword ['a'] 0, .ofText .number ['b'] 1] ∧
      ∃ front rest found, ['a', 'b'] = front ++ rest ∧ Utf8.size front = 0 ∧
        alternating.pattern.find? rest = some found ∧
        ∀ byte, 0 ≤ byte → byte < 0 + Utf8.size (rest.take found.span.stop) →
          Classes rest 0 (found.regions 1 [some .keyword, some .number])
            [.ofText .keyword ['a'] 0, .ofText .number ['b'] 1] byte := by
  have made : alternating.tokensAt? ['a', 'b'] 0
      = some [.ofText .keyword ['a'] 0, .ofText .number ['b'] 1] := by decide +kernel
  exact ⟨made, tokensAt?_classes rfl made⟩

/-- In `ba` the second group alone holds the first byte, but it is left out for the first, which
was recorded in the next round, and the byte stays plain. -/
theorem byte_left_plain : ∃ rule tokens found,
    ofText "last" "(?:(a)|(b))+" (.groups [some .keyword, some .number]) = .ok rule ∧
      rule.tokensAt? ['b', 'a'] 0 = some tokens ∧ rule.pattern.find? ['b', 'a'] = some found ∧
      classAt ['b', 'a'] 0 0 (found.regions 1 [some .keyword, some .number]) = .number ∧
      ∃ token ∈ tokens, token.Holds 0 ∧ token.cls = .plain := by
  refine ⟨alternating, [.ofText .plain ['b'] 0, .ofText .keyword ['a'] 1],
    ⟨⟨0, 2⟩, [(1, ⟨1, 2⟩), (2, ⟨0, 1⟩)]⟩, ?_, ?_, ?_, ?_, ?_⟩
  · exact ofText_groups alternating.pattern (by decide +kernel) rfl
  · decide +kernel
  · decide +kernel
  · decide +kernel
  · exact ⟨.ofText .plain ['b'] 0, List.mem_cons_self, ⟨by decide, by decide⟩, rfl⟩

end Rule

end Highlighter
