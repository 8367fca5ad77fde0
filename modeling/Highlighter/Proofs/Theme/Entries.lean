import Mathlib.Data.List.Nodup
import Highlighter.Proofs.Text.ByteOrder
import Highlighter.Theme.File

/-!
# What the entries of a theme file do

An entry is sound if it is named for a token class and the colours it gives
have names.  Sound entries replace what they give in the default styles of their
classes and leave everything else; of entries with faults the one whose name
comes first in the order of bytes decides which error is reported.
-/

set_option autoImplicit false

namespace Highlighter

/-! ## Names -/

namespace Color

/-- The names of a colour in configuration files, in lower case. -/
def names : Color → List String
  | bright .black => ["bright-black", "grey", "gray"]
  | color => [color.name]

/-- A name of the colour, in letters of either case. -/
def IsNamed (color : Color) (name : String) : Prop :=
  String.ofList (name.toList.map asciiLower) ∈ color.names

theorem mem_all (color : Color) : color ∈ all := by
  cases color with
  | default => decide
  | normal hue => cases hue <;> decide
  | bright hue => cases hue <;> decide

theorem name_mem_names (color : Color) : color.name ∈ color.names := by
  have among : ∀ color ∈ all, color.name ∈ color.names := by decide +kernel
  exact among color color.mem_all

theorem ofLowerName?_eq_some_iff {name : String} {color : Color} :
    ofLowerName? name = some color ↔ name ∈ color.names := by
  constructor
  · intro found
    unfold ofLowerName? at found
    split at found
    · rename_i grey
      cases found
      rcases Bool.or_eq_true_iff.mp grey with same | same
      · exact beq_iff_eq.mp same ▸ by decide
      · exact beq_iff_eq.mp same ▸ by decide
    · have same := List.find?_some found
      exact beq_iff_eq.mp same ▸ color.name_mem_names
  · intro member
    have named : ∀ color ∈ all, ∀ name ∈ color.names, ofLowerName? name = some color := by
      decide +kernel
    exact named color color.mem_all name member

theorem ofName?_eq_some_iff {name : String} {color : Color} :
    ofName? name = some color ↔ color.IsNamed name :=
  ofLowerName?_eq_some_iff

theorem ofName?_eq_none_iff {name : String} :
    ofName? name = none ↔ ∀ color : Color, ¬color.IsNamed name := by
  simp only [Option.eq_none_iff_forall_ne_some, ne_eq, ofName?_eq_some_iff]

end Color

namespace TokenClass

theorem ofName?_eq_some_iff {name : String} {cls : TokenClass} :
    ofName? name = some cls ↔ cls.name = name := by
  constructor
  · intro found
    have same := List.find?_some found
    exact beq_iff_eq.mp same
  · rintro rfl
    exact ofName?_name cls

theorem ofName?_eq_none_iff {name : String} :
    ofName? name = none ↔ ∀ cls : TokenClass, cls.name ≠ name := by
  simp only [Option.eq_none_iff_forall_ne_some, ne_eq, ofName?_eq_some_iff]

theorem name_injective {cls other : TokenClass} (same : cls.name = other.name) : cls = other :=
  Option.some.inj ((ofName?_name cls).symm.trans (same ▸ ofName?_name other))

end TokenClass

namespace ThemeFile

/-! ## One entry -/

namespace Entry

/-- The colour that is given by its name, or the one of `base` if none is given. -/
def Chooses (base : Color) (given : Option String) (color : Color) : Prop :=
  match given with
  | none => color = base
  | some name => color.IsNamed name

/-- What an entry gives replaces what `base` has, and nothing else. -/
structure Restyles (entry : Entry) (base style : Style) : Prop where
  foreground : Chooses base.foreground entry.foreground style.foreground
  background : Chooses base.background entry.background style.background
  bold : style.bold = entry.bold.getD base.bold
  italic : style.italic = entry.italic.getD base.italic
  underline : style.underline = entry.underline.getD base.underline

/-- If a colour is given, its name is one. -/
def Named (given : Option String) : Prop :=
  ∀ name ∈ given, ∃ color : Color, color.IsNamed name

/-- A colour is given by what is no name of one. -/
def Misnames (given : Option String) (name : String) : Prop :=
  given = some name ∧ ∀ color : Color, ¬color.IsNamed name

theorem Chooses.named {base color : Color} {given : Option String}
    (chooses : Chooses base given color) : Named given := by
  rintro name rfl
  exact ⟨color, chooses⟩

theorem Misnames.not_named {given : Option String} {name : String}
    (misnames : Misnames given name) : ¬Named given := by
  intro named
  obtain ⟨color, own⟩ := named name misnames.1
  exact misnames.2 color own

theorem Misnames.unique {given : Option String} {name other : String}
    (misnames : Misnames given name) (others : Misnames given other) : name = other :=
  Option.some.inj (misnames.1.symm.trans others.1)

theorem color_eq_ok_iff {base own : Color} {given : Option String} :
    color base given = .ok own ↔ Chooses base given own := by
  cases given with
  | none => exact ⟨fun equation => (Except.ok.inj equation).symm, fun same => same ▸ rfl⟩
  | some name =>
    unfold Chooses color
    dsimp only
    rw [← Color.ofName?_eq_some_iff]
    cases Color.ofName? name <;> simp

theorem color_eq_error_iff {base : Color} {given : Option String} {cause : Failure} :
    color base given = .error cause ↔ ∃ name, Misnames given name ∧ cause = .unknownColor name := by
  unfold Misnames
  cases given with
  | none => simp [color]
  | some name =>
    unfold color
    dsimp only
    cases found : Color.ofName? name with
    | none =>
      have nameless := Color.ofName?_eq_none_iff.mp found
      simp [nameless, eq_comm]
    | some own =>
      have named := Color.ofName?_eq_some_iff.mp found
      simp only [reduceCtorEq, Option.some.injEq, false_iff, not_exists, not_and]
      rintro other ⟨rfl, nameless⟩
      exact absurd named (nameless own)

theorem apply_eq_ok_iff {entry : Entry} {base style : Style} :
    entry.apply base = .ok style ↔ entry.Restyles base style := by
  constructor
  · intro applied
    unfold apply at applied
    split at applied
    · cases applied
    · rename_i foreground first
      split at applied
      · cases applied
      · rename_i background second
        cases applied
        exact ⟨color_eq_ok_iff.mp first, color_eq_ok_iff.mp second, rfl, rfl, rfl⟩
  · intro restyles
    obtain ⟨foreground, background, bold, italic, underline⟩ := style
    obtain ⟨first, second, rfl, rfl, rfl⟩ := restyles
    unfold apply
    rw [color_eq_ok_iff.mpr first, color_eq_ok_iff.mpr second]

theorem apply_eq_error_iff {entry : Entry} {base : Style} {cause : Failure} :
    entry.apply base = .error cause ↔ ∃ name, cause = .unknownColor name ∧
      (Misnames entry.foreground name ∨
        Named entry.foreground ∧ Misnames entry.background name) := by
  unfold apply
  cases first : color base.foreground entry.foreground with
  | error fault =>
    obtain ⟨name, misnames, rfl⟩ := color_eq_error_iff.mp first
    constructor
    · rintro ⟨⟩
      exact ⟨name, rfl, .inl misnames⟩
    · rintro ⟨other, rfl, others | ⟨named, -⟩⟩
      · rw [misnames.unique others]
      · exact absurd named misnames.not_named
  | ok foreground =>
    have named := (color_eq_ok_iff.mp first).named
    dsimp only
    cases second : color base.background entry.background with
    | error fault =>
      obtain ⟨name, misnames, rfl⟩ := color_eq_error_iff.mp second
      constructor
      · rintro ⟨⟩
        exact ⟨name, rfl, .inr ⟨named, misnames⟩⟩
      · rintro ⟨other, rfl, others | ⟨-, others⟩⟩
        · exact absurd named others.not_named
        · rw [misnames.unique others]
    | ok background =>
      have otherNamed := (color_eq_ok_iff.mp second).named
      constructor
      · rintro ⟨⟩
      · rintro ⟨other, rfl, others | ⟨-, others⟩⟩
        · exact absurd named others.not_named
        · exact absurd otherNamed others.not_named

end Entry

/-! ## Faults -/

namespace Entries

open Entry (Named Misnames)

/-- An entry without faults: it has the name of a class, and its colours have names. -/
structure Sound (entry : String × Entry) : Prop where
  name : ∃ cls : TokenClass, cls.name = entry.1
  foreground : Named entry.2.foreground
  background : Named entry.2.background

/-- The error that an entry is reported with.  An unknown class counts before the colours, and the
foreground before the background. -/
inductive Fault : String × Entry → Failure → Prop where
  | unknownClass {name : String} {entry : Entry} (unknown : ∀ cls : TokenClass, cls.name ≠ name) :
      Fault (name, entry) (.unknownTokenClass name)
  | foreground {name given : String} {entry : Entry} (known : ∃ cls : TokenClass, cls.name = name)
      (misnames : Misnames entry.foreground given) : Fault (name, entry) (.unknownColor given)
  | background {name given : String} {entry : Entry} (known : ∃ cls : TokenClass, cls.name = name)
      (named : Named entry.foreground) (misnames : Misnames entry.background given) :
      Fault (name, entry) (.unknownColor given)

theorem Fault.not_sound {entry : String × Entry} {cause : Failure} (fault : Fault entry cause) :
    ¬Sound entry := by
  intro sound
  cases fault with
  | unknownClass unknown =>
    obtain ⟨cls, known⟩ := sound.name
    exact unknown cls known
  | foreground _ misnames => exact misnames.not_named sound.foreground
  | background _ _ misnames => exact misnames.not_named sound.background

theorem restyle_eq_ok_iff {theme next : Theme} {name : String} {entry : Entry} :
    restyle theme (name, entry) = .ok next ↔ ∃ (cls : TokenClass) (style : Style),
      cls.name = name ∧ entry.Restyles cls.defaultStyle style ∧ next = theme.set cls style := by
  unfold restyle
  dsimp only
  cases found : TokenClass.ofName? name with
  | none =>
    have unknown := TokenClass.ofName?_eq_none_iff.mp found
    simp [unknown]
  | some cls =>
    have own := TokenClass.ofName?_eq_some_iff.mp found
    dsimp only
    constructor
    · intro equation
      cases applied : entry.apply cls.defaultStyle with
      | error cause =>
        rw [applied] at equation
        cases equation
      | ok style =>
        rw [applied] at equation
        cases equation
        exact ⟨cls, style, own, Entry.apply_eq_ok_iff.mp applied, rfl⟩
    · rintro ⟨other, style, same, restyles, rfl⟩
      obtain rfl := TokenClass.name_injective (own.trans same.symm)
      rw [Entry.apply_eq_ok_iff.mpr restyles]
      rfl

theorem restyle_eq_error_iff {theme : Theme} {entry : String × Entry} {cause : Failure} :
    restyle theme entry = .error cause ↔ Fault entry cause := by
  obtain ⟨name, entry⟩ := entry
  unfold restyle
  dsimp only
  cases found : TokenClass.ofName? name with
  | none =>
    have unknown := TokenClass.ofName?_eq_none_iff.mp found
    constructor
    · rintro ⟨⟩
      exact .unknownClass unknown
    · intro fault
      cases fault with
      | unknownClass _ => rfl
      | foreground known _ => exact absurd known (not_exists.mpr unknown)
      | background known _ _ => exact absurd known (not_exists.mpr unknown)
  | some cls =>
    have known := TokenClass.ofName?_eq_some_iff.mp found
    have mapped : (entry.apply cls.defaultStyle).map (theme.set cls) = .error cause ↔
        entry.apply cls.defaultStyle = .error cause := by
      cases entry.apply cls.defaultStyle <;> simp [Except.map]
    dsimp only
    rw [mapped, Entry.apply_eq_error_iff]
    constructor
    · rintro ⟨given, rfl, misnames | ⟨named, misnames⟩⟩
      · exact .foreground ⟨cls, known⟩ misnames
      · exact .background ⟨cls, known⟩ named misnames
    · intro fault
      cases fault with
      | unknownClass unknown => exact absurd known (unknown cls)
      | foreground _ misnames => exact ⟨_, rfl, .inl misnames⟩
      | background _ named misnames => exact ⟨_, rfl, .inr ⟨named, misnames⟩⟩

/-- An entry changes the theme if it is sound, and only then. -/
theorem sound_iff_restyle {theme : Theme} {entry : String × Entry} :
    Sound entry ↔ ∃ next, restyle theme entry = .ok next := by
  constructor
  · intro sound
    cases restyled : restyle theme entry with
    | ok next => exact ⟨next, rfl⟩
    | error cause => exact absurd sound (restyle_eq_error_iff.mp restyled).not_sound
  · rintro ⟨next, restyled⟩
    obtain ⟨cls, style, known, restyles, -⟩ := restyle_eq_ok_iff.mp restyled
    exact ⟨⟨cls, known⟩, restyles.foreground.named, restyles.background.named⟩

/-! ## All entries -/

/-- What a theme made of `base` by entries says of each class. -/
structure Follows (entries : Entries) (base theme : Theme) : Prop where
  given : ∀ (cls : TokenClass) (entry : Entry), (cls.name, entry) ∈ entries →
    entry.Restyles cls.defaultStyle (theme.style cls)
  other : ∀ cls : TokenClass, (∀ entry, (cls.name, entry) ∉ entries) →
    theme.style cls = base.style cls

theorem Follows.nil (theme : Theme) : Follows [] theme theme :=
  ⟨fun _ _ member => (nomatch member), fun _ _ => rfl⟩

theorem Follows.cons {entries : Entries} {base final : Theme} {cls : TokenClass} {style : Style}
    {entry : Entry} (restyles : entry.Restyles cls.defaultStyle style)
    (follows : Follows entries (base.set cls style) final)
    (new : cls.name ∉ entries.map (·.1)) : Follows ((cls.name, entry) :: entries) base final := by
  have absent : ∀ other, (cls.name, other) ∉ entries := fun other member =>
    new (List.mem_map_of_mem member)
  refine ⟨fun other held member => ?_, fun other missing => ?_⟩
  · rcases List.mem_cons.mp member with same | later
    · obtain ⟨sameName, rfl⟩ := Prod.mk.inj same
      obtain rfl := TokenClass.name_injective sameName
      rw [follows.other other absent]
      simpa [Theme.set] using restyles
    · exact follows.given other held later
  · have different : other ≠ cls := by
      rintro rfl
      exact missing entry List.mem_cons_self
    rw [follows.other other fun held member => missing held (List.mem_cons_of_mem _ member)]
    simp [Theme.set, different]

theorem restyleAll_follows {final : Theme} (entries : Entries) : ∀ theme,
    (entries.map (·.1)).Nodup → restyleAll theme entries = .ok final →
      Follows entries theme final := by
  induction entries with
  | nil =>
    rintro theme - ⟨⟩
    exact .nil _
  | cons entry entries inductionHypothesis =>
    intro theme distinct restyled
    rw [List.map_cons, List.nodup_cons] at distinct
    unfold restyleAll at restyled
    split at restyled
    · cases restyled
    · rename_i next first
      obtain ⟨name, entry⟩ := entry
      obtain ⟨cls, style, rfl, restyles, rfl⟩ := restyle_eq_ok_iff.mp first
      exact .cons restyles (inductionHypothesis _ distinct.2 restyled) distinct.1

theorem isOk_restyleAll_iff (entries : Entries) : ∀ theme,
    (∃ final, restyleAll theme entries = .ok final) ↔ ∀ entry ∈ entries, Sound entry := by
  induction entries with
  | nil => exact fun theme => ⟨fun _ => List.forall_mem_nil _, fun _ => ⟨theme, rfl⟩⟩
  | cons first entries inductionHypothesis =>
    intro theme
    rw [List.forall_mem_cons]
    unfold restyleAll
    cases restyled : restyle theme first with
    | error fault =>
      have own := (restyle_eq_error_iff.mp restyled).not_sound
      simp [own]
    | ok next =>
      have own : Sound first := sound_iff_restyle.mpr ⟨next, restyled⟩
      simp only [own, true_and]
      exact inductionHypothesis next

theorem restyleAll_eq_error_iff {cause : Failure} (entries : Entries) : ∀ theme,
    restyleAll theme entries = .error cause ↔ ∃ before entry after,
      entries = before ++ entry :: after ∧ (∀ other ∈ before, Sound other) ∧ Fault entry cause := by
  induction entries with
  | nil =>
    intro theme
    simp [restyleAll]
  | cons first entries inductionHypothesis =>
    intro theme
    unfold restyleAll
    cases restyled : restyle theme first with
    | error fault =>
      have own := restyle_eq_error_iff.mp restyled
      dsimp only
      constructor
      · rintro ⟨⟩
        exact ⟨[], first, entries, rfl, List.forall_mem_nil _, own⟩
      · rintro ⟨before, entry, after, split, sound, fault⟩
        cases before with
        | nil =>
          obtain ⟨rfl, -⟩ := List.cons.inj split
          rw [← restyled, restyle_eq_error_iff.mpr fault]
        | cons other before =>
          obtain ⟨rfl, -⟩ := List.cons.inj split
          exact absurd (sound first List.mem_cons_self) own.not_sound
    | ok next =>
      have own := sound_iff_restyle.mpr ⟨next, restyled⟩
      dsimp only
      rw [inductionHypothesis next]
      constructor
      · rintro ⟨before, entry, after, rfl, sound, fault⟩
        exact ⟨first :: before, entry, after, rfl, List.forall_mem_cons.mpr ⟨own, sound⟩, fault⟩
      · rintro ⟨before, entry, after, split, sound, fault⟩
        cases before with
        | nil =>
          obtain ⟨rfl, -⟩ := List.cons.inj split
          exact absurd own fault.not_sound
        | cons other before =>
          obtain ⟨rfl, rfl⟩ := List.cons.inj split
          exact ⟨before, entry, after, rfl, (List.forall_mem_cons.mp sound).2, fault⟩

/-! ## The order of the names -/

theorem sorted_perm (entries : Entries) : (sorted entries).Perm entries :=
  List.mergeSort_perm entries _

theorem sorted_pairwise (entries : Entries) :
    (sorted entries).Pairwise fun left right => left.1 ≤ right.1 := by
  have ordered : (sorted entries).Pairwise fun left right => decide (left.1 ≤ right.1) = true := by
    refine List.pairwise_mergeSort ?_ ?_ entries
    · intro first second third lower upper
      exact decide_eq_true (le_trans (of_decide_eq_true lower) (of_decide_eq_true upper))
    · intro first second
      simpa using le_total first.1 second.1
  exact ordered.imp of_decide_eq_true

section Distinct
variable {entries : Entries} (distinct : (entries.map (·.1)).Nodup)
include distinct

/-- Entries with different names have one order only, however they come. -/
theorem sorted_eq_of_perm {others : Entries} (reordered : entries.Perm others) :
    sorted entries = sorted others := by
  refine List.Perm.eq_of_pairwise ?_ (sorted_pairwise entries) (sorted_pairwise others) ?_
  · intro first second firstMember secondMember lower upper
    have firstAmong := (sorted_perm entries).mem_iff.mp firstMember
    have secondAmong := reordered.mem_iff.mpr ((sorted_perm others).mem_iff.mp secondMember)
    exact List.inj_on_of_nodup_map distinct firstAmong secondAmong (le_antisymm lower upper)
  · exact (sorted_perm entries).trans (reordered.trans (sorted_perm others).symm)

theorem theme_follows {theme : Theme} (made : entries.theme = .ok theme) :
    Follows entries .default theme := by
  have sortedDistinct : ((sorted entries).map (·.1)).Nodup :=
    ((sorted_perm entries).map _).nodup_iff.mpr distinct
  have follows := restyleAll_follows (sorted entries) .default sortedDistinct made
  refine ⟨fun cls entry member => ?_, fun cls missing => ?_⟩
  · exact follows.given cls entry ((sorted_perm entries).mem_iff.mpr member)
  · exact follows.other cls fun entry member =>
      missing entry ((sorted_perm entries).mem_iff.mp member)

/-- The entry that decides the error is the faulty one whose name comes first. -/
theorem theme_eq_error_iff {cause : Failure} : entries.theme = .error cause ↔
    ∃ entry ∈ entries, Fault entry cause ∧
      ∀ other ∈ entries, Utf8.nameBytes other.1 < Utf8.nameBytes entry.1 → Sound other := by
  simp only [Utf8.nameBytes_lt_iff]
  unfold Entries.theme
  rw [restyleAll_eq_error_iff]
  have ordered := sorted_pairwise entries
  constructor
  · rintro ⟨before, entry, after, split, sound, fault⟩
    have among : ∀ other, other ∈ before ++ entry :: after ↔ other ∈ entries := fun other =>
      split ▸ (sorted_perm entries).mem_iff
    refine ⟨entry, (among entry).mp (List.mem_append_right _ List.mem_cons_self), fault, ?_⟩
    intro other member lower
    rcases List.mem_append.mp ((among other).mpr member) with earlier | later
    · exact sound other earlier
    · rw [split] at ordered
      have upper := (List.pairwise_append.mp ordered).2.1
      rcases List.mem_cons.mp later with same | behind
      · exact absurd (same ▸ lower) (lt_irrefl _)
      · exact absurd lower (not_lt.mpr (List.rel_of_pairwise_cons upper behind))
  · rintro ⟨entry, member, fault, sound⟩
    obtain ⟨before, after, split⟩ := List.append_of_mem ((sorted_perm entries).mem_iff.mpr member)
    refine ⟨before, entry, after, split, fun other earlier => ?_, fault⟩
    have among : other ∈ entries := (sorted_perm entries).mem_iff.mp
      (split ▸ List.mem_append_left _ earlier)
    rw [split] at ordered
    have lower : other.1 ≤ entry.1 :=
      (List.pairwise_append.mp ordered).2.2 other earlier entry List.mem_cons_self
    refine sound other among (lt_of_le_of_ne lower fun same => ?_)
    -- Two entries of one name would be one entry at two places.
    have sortedDistinct : ((sorted entries).map (·.1)).Nodup :=
      ((sorted_perm entries).map _).nodup_iff.mpr distinct
    rw [split, List.map_append, List.map_cons] at sortedDistinct
    have apart := (List.nodup_append.mp sortedDistinct).2.2 other.1 (List.mem_map_of_mem earlier)
      entry.1 List.mem_cons_self
    exact apart same

end Distinct

/-- Entries make a theme if all of them are sound, and only then. -/
theorem isOk_theme_iff (entries : Entries) :
    (∃ theme, entries.theme = .ok theme) ↔ ∀ entry ∈ entries, Sound entry := by
  have ready := isOk_restyleAll_iff (sorted entries) .default
  simp only [(sorted_perm entries).mem_iff] at ready
  exact ready

end Entries

end ThemeFile

end Highlighter
