import Mathlib
import Highlighter.Proofs.Theme.Entries
import Highlighter.Proofs.Toml.Keys

/-!
# Theme files

What a theme file comes to is decided by its entries, and by them alone.  The
keys of a table come in the order in which they are written, and so do the
tables of a document, but the file says the same in any order: since no key is
given twice, an entry is told by which lines its table has, and a theme by which
entries there are.
-/

set_option autoImplicit false

namespace Highlighter

namespace Toml

/-- Two values hold the same, but for the order in which keys stand in their tables and for how the
tables came about. -/
inductive Value.Alike : Value → Value → Prop where
  | same (value : Value) : Alike value value
  | array {items others : List Value} (each : List.Forall₂ Alike items others) :
      Alike (.array items) (.array others)
  | tables {items others : List Entries}
      (each : List.Forall₂ (fun held other => Alike (.table .stated held) (.table .stated other))
        items others) : Alike (.tables items) (.tables others)
  | table (origin other : Origin) {entries middle others : Entries} (order : entries.Perm middle)
      (keys : middle.map (·.1) = others.map (·.1))
      (each : List.Forall₂ (fun entry held => Alike entry.2 held.2) middle others) :
      Alike (.table origin entries) (.table other others)

/-- Two tables have the same keys, in any order, with values alike. -/
def Entries.Alike (entries others : Entries) : Prop :=
  ∃ middle : Entries, entries.Perm middle ∧ middle.map (·.1) = others.map (·.1) ∧
    List.Forall₂ (fun entry other => entry.2.Alike other.2) middle others

theorem Value.Alike.string {content : String} {other : Value}
    (alike : (string content).Alike other) : other = string content := by
  cases alike
  rfl

theorem Value.Alike.boolean {value : Bool} {other : Value}
    (alike : (boolean value).Alike other) : other = boolean value := by
  cases alike
  rfl

end Toml

namespace ThemeFile

open Toml (Value)

/-! ## An entry by its lines -/

namespace Entry

/-- What an entry has for a key, as a value. -/
def value? (entry : Entry) (key : String) : Option Value :=
  if key = "fg" then entry.foreground.map .string
  else if key = "bg" then entry.background.map .string
  else if key = "bold" then entry.bold.map .boolean
  else if key = "italic" then entry.italic.map .boolean
  else if key = "underline" then entry.underline.map .boolean
  else none

theorem ext_value? {entry other : Entry} (same : ∀ key, entry.value? key = other.value? key) :
    entry = other := by
  have strings : ∀ {first second : Option String},
      first.map Value.string = second.map Value.string → first = second := fun mapped =>
    Option.map_injective (fun _ _ same => Value.string.inj same) mapped
  have booleans : ∀ {first second : Option Bool},
      first.map Value.boolean = second.map Value.boolean → first = second := fun mapped =>
    Option.map_injective (fun _ _ same => Value.boolean.inj same) mapped
  obtain ⟨foreground, background, bold, italic, underline⟩ := entry
  obtain ⟨otherForeground, otherBackground, otherBold, otherItalic, otherUnderline⟩ := other
  obtain rfl := strings (same "fg")
  obtain rfl := strings (same "bg")
  obtain rfl := booleans (same "bold")
  obtain rfl := booleans (same "italic")
  obtain rfl := booleans (same "underline")
  rfl

theorem withLine?_cases {entry next : Entry} {line : String × Value}
    (added : entry.withLine? line = some next) :
    (∃ name, line = ("fg", .string name) ∧ next = { entry with foreground := some name }) ∨
      (∃ name, line = ("bg", .string name) ∧ next = { entry with background := some name }) ∨
      (∃ given, line = ("bold", .boolean given) ∧ next = { entry with bold := some given }) ∨
      (∃ given, line = ("italic", .boolean given) ∧ next = { entry with italic := some given }) ∨
      ∃ given, line = ("underline", .boolean given) ∧
        next = { entry with underline := some given } := by
  unfold withLine? at added
  split at added <;> simp_all

/-- A line changes what an entry has for its key, and nothing else. -/
theorem withLine?_value? {entry next : Entry} {line : String × Value}
    (added : entry.withLine? line = some next) (key : String) :
    next.value? key = if key = line.1 then some line.2 else entry.value? key := by
  by_cases same : key = line.1
  · subst same
    rcases withLine?_cases added with ⟨name, rfl, rfl⟩ | ⟨name, rfl, rfl⟩ | ⟨given, rfl, rfl⟩ |
      ⟨given, rfl, rfl⟩ | ⟨given, rfl, rfl⟩ <;> simp [value?]
  · rw [if_neg same]
    rcases withLine?_cases added with ⟨name, rfl, rfl⟩ | ⟨name, rfl, rfl⟩ | ⟨given, rfl, rfl⟩ |
      ⟨given, rfl, rfl⟩ | ⟨given, rfl, rfl⟩ <;> simp [value?, same]

/-- Whether a line can be added does not depend on the lines before it. -/
theorem isSome_withLine? (entry other : Entry) (line : String × Value) :
    (entry.withLine? line).isSome = (other.withLine? line).isSome := by
  unfold withLine?
  split <;> rfl

theorem isSome_withLines_iff (lines : List (String × Value)) : ∀ start : Entry,
    (lines.foldlM withLine? start).isSome ↔ ∀ line ∈ lines, (empty.withLine? line).isSome := by
  induction lines with
  | nil => simp
  | cons line lines inductionHypothesis =>
    intro start
    have own := isSome_withLine? empty start line
    rw [List.foldlM_cons, List.forall_mem_cons, own]
    cases added : start.withLine? line with
    | none => simp
    | some next => simpa using inductionHypothesis next

/-- What the lines of a table make of an entry is what each of them says, in any order. -/
theorem withLines_value? {entry : Entry} (lines : List (String × Value)) : ∀ start : Entry,
    (lines.map (·.1)).Nodup → lines.foldlM withLine? start = some entry →
      (∀ line ∈ lines, entry.value? line.1 = some line.2) ∧
        ∀ key, key ∉ lines.map (·.1) → entry.value? key = start.value? key := by
  induction lines with
  | nil =>
    rintro start - ⟨⟩
    exact ⟨List.forall_mem_nil _, fun _ _ => rfl⟩
  | cons line lines inductionHypothesis =>
    intro start distinct made
    rw [List.map_cons, List.nodup_cons] at distinct
    rw [List.foldlM_cons] at made
    obtain ⟨next, added, made⟩ := Option.bind_eq_some_iff.mp made
    obtain ⟨later, others⟩ := inductionHypothesis next distinct.2 made
    refine ⟨List.forall_mem_cons.mpr ⟨?_, later⟩, fun key missing => ?_⟩
    · rw [others line.1 distinct.1, withLine?_value? added, if_pos rfl]
    · rw [List.map_cons, List.mem_cons, not_or] at missing
      rw [others key missing.2, withLine?_value? added, if_neg missing.1]

theorem withLines_perm {entry : Entry} {lines others : List (String × Value)}
    (distinct : (lines.map (·.1)).Nodup) (order : lines.Perm others)
    (made : lines.foldlM withLine? empty = some entry) :
    others.foldlM withLine? empty = some entry := by
  have known := (isSome_withLines_iff lines empty).mp (Option.isSome_of_eq_some made)
  have ready : (others.foldlM withLine? empty).isSome :=
    (isSome_withLines_iff others empty).mpr fun line member =>
      known line (order.mem_iff.mpr member)
  obtain ⟨other, otherMade⟩ := Option.isSome_iff_exists.mp ready
  obtain ⟨said, missing⟩ := withLines_value? lines empty distinct made
  obtain ⟨otherSaid, otherMissing⟩ := withLines_value? others empty
    ((order.map _).nodup_iff.mp distinct) otherMade
  rw [otherMade, Option.some.injEq]
  refine ext_value? fun key => ?_
  by_cases among : key ∈ lines.map (·.1)
  · obtain ⟨line, member, rfl⟩ := List.mem_map.mp among
    rw [said line member, otherSaid line (order.mem_iff.mp member)]
  · rw [missing key among, otherMissing key fun member => among ((order.map _).mem_iff.mpr member)]

/-! ## An entry by a value alike -/

theorem eq_of_alike {line : String × Value} {other : Value}
    (known : (empty.withLine? line).isSome) (alike : line.2.Alike other) : other = line.2 := by
  obtain ⟨entry, added⟩ := Option.isSome_iff_exists.mp known
  rcases withLine?_cases added with ⟨name, rfl, -⟩ | ⟨name, rfl, -⟩ | ⟨given, rfl, -⟩ |
    ⟨given, rfl, -⟩ | ⟨given, rfl, -⟩
  · exact alike.string
  · exact alike.string
  · exact alike.boolean
  · exact alike.boolean
  · exact alike.boolean

theorem lines_eq_of_alike {lines others : Toml.Entries}
    (each : List.Forall₂ (fun entry other => entry.2.Alike other.2) lines others) :
    (∀ line ∈ lines, (empty.withLine? line).isSome) → lines.map (·.1) = others.map (·.1) →
      others = lines := by
  induction each with
  | nil => exact fun _ _ => rfl
  | @cons line other lines others alike _ inductionHypothesis =>
    intro known keys
    obtain ⟨own, later⟩ := List.forall_mem_cons.mp known
    obtain ⟨sameKey, sameKeys⟩ := List.cons.inj keys
    rw [inductionHypothesis later sameKeys]
    exact congrArg (· :: lines) (Prod.ext sameKey.symm (eq_of_alike own alike))

theorem ofToml?_of_alike {value other : Value} {entry : Entry} (distinct : value.Distinct)
    (alike : value.Alike other) (read : ofToml? value = some entry) :
    ofToml? other = some entry := by
  cases alike with
  | same => exact read
  | tables => cases read
  | table origin other order keys each =>
    cases distinct with
    | table _ held =>
      have made := withLines_perm held.keys order read
      have known := (isSome_withLines_iff _ empty).mp (Option.isSome_of_eq_some made)
      rw [lines_eq_of_alike each known keys]
      exact made
  | array each =>
    unfold ofToml? at read
    split at read
    · rename_i same
      cases same
    · rename_i same
      cases same
      obtain _ | ⟨foreground, _ | ⟨background, _ | ⟨bold, _ | ⟨italic, _ | ⟨underline, _⟩⟩⟩⟩⟩ := each
      rw [foreground.string, background.string, bold.boolean, italic.boolean, underline.boolean]
      exact read
    · cases read

end Entry

/-! ## All entries -/

namespace Entries

/-- An entry under the key that it is read from. -/
def Reads (line : String × Value) (entry : String × Entry) : Prop :=
  line.1 = entry.1 ∧ Entry.ofToml? line.2 = some entry.2

theorem mapM_eq_some_iff (lines : List (String × Value)) : ∀ entries : Entries,
    (lines.mapM fun (name, value) => (Entry.ofToml? value).map fun entry => (name, entry))
      = some entries ↔ List.Forall₂ Reads lines entries := by
  induction lines with
  | nil =>
    intro entries
    cases entries <;> simp
  | cons line lines inductionHypothesis =>
    obtain ⟨key, value⟩ := line
    intro entries
    rw [List.mapM_cons]
    constructor
    · intro made
      obtain ⟨entry, first, made⟩ := Option.bind_eq_some_iff.mp made
      obtain ⟨others, later, made⟩ := Option.bind_eq_some_iff.mp made
      obtain ⟨own, read, rfl⟩ := Option.map_eq_some_iff.mp first
      cases made
      exact .cons ⟨rfl, read⟩ ((inductionHypothesis others).mp later)
    · intro reads
      cases reads with
      | @cons _ entry _ others first later =>
        obtain ⟨name, own⟩ := entry
        obtain ⟨rfl, read⟩ := first
        dsimp only at read ⊢
        rw [(inductionHypothesis others).mpr later, read]
        rfl

theorem reads_keys {lines : List (String × Value)} {entries : Entries}
    (reads : List.Forall₂ Reads lines entries) : lines.map (·.1) = entries.map (·.1) := by
  induction reads with
  | nil => rfl
  | cons first _ inductionHypothesis =>
    rw [List.map_cons, List.map_cons, first.1, inductionHypothesis]

theorem reads_of_alike {lines others : List (String × Value)}
    (each : List.Forall₂ (fun line other => line.2.Alike other.2) lines others) :
    ∀ entries : Entries, (∀ line ∈ lines, line.2.Distinct) →
      lines.map (·.1) = others.map (·.1) → List.Forall₂ Reads lines entries →
        List.Forall₂ Reads others entries := by
  induction each with
  | nil => exact fun _ _ _ reads => reads
  | cons alike _ inductionHypothesis =>
    intro entries distinct keys reads
    obtain ⟨own, later⟩ := List.forall_mem_cons.mp distinct
    obtain ⟨sameKey, sameKeys⟩ := List.cons.inj keys
    cases reads with
    | cons first reads =>
      exact .cons ⟨sameKey.symm.trans first.1, Entry.ofToml?_of_alike own alike first.2⟩
        (inductionHypothesis _ later sameKeys reads)

/-- The entries of two documents alike are the same in another order. -/
theorem ofToml?_of_alike {document other : Toml.Entries} {entries : Entries}
    (distinct : document.Distinct) (alike : document.Alike other)
    (read : ofToml? document = some entries) :
    ∃ reordered, ofToml? other = some reordered ∧ entries.Perm reordered := by
  obtain ⟨middle, order, keys, each⟩ := alike
  unfold ofToml? at read
  split at read
  · cases read
    obtain rfl := List.nil_perm.mp order
    cases each
    exact ⟨[], rfl, .refl _⟩
  · rename_i origin lines
    obtain rfl := List.singleton_perm.mp order
    cases each with
    | @cons _ held _ others alike rest =>
      cases rest
      obtain ⟨key, value⟩ := held
      obtain ⟨rfl, -⟩ := List.cons.inj keys
      dsimp only at alike
      cases alike with
      | same => exact ⟨entries, read, .refl _⟩
      | @table _ written _ middle others order lineKeys each =>
        cases distinct.held _ List.mem_cons_self with
        | table _ inner =>
          have reads := (mapM_eq_some_iff lines entries).mp read
          obtain ⟨reordered, middleReads, same⟩ := List.perm_comp_forall₂ order.symm reads
          have distinctLines : ∀ line ∈ middle, line.2.Distinct := fun line member =>
            inner.held line (order.mem_iff.mpr member)
          refine ⟨reordered, ?_, same.symm⟩
          exact (mapM_eq_some_iff others reordered).mpr
            (reads_of_alike each reordered distinctLines lineKeys middleReads)
  · cases read

/-- No two entries of a document have one name. -/
theorem ofToml?_distinct {document : Toml.Entries} {entries : Entries}
    (distinct : document.Distinct) (read : ofToml? document = some entries) :
    (entries.map (·.1)).Nodup := by
  unfold ofToml? at read
  split at read
  · cases read
    exact .nil
  · rename_i origin lines
    cases distinct.held _ List.mem_cons_self with
    | table _ inner =>
      rw [← reads_keys ((mapM_eq_some_iff lines entries).mp read)]
      exact inner.keys
  · cases read

end Entries

/-! ## The whole file -/

open Entries (Sound Fault Follows)

theorem read_eq_theme {text : List Char} {entries : Entries}
    (described : entries? text = some entries) : read text = entries.theme := by
  unfold read
  rw [described]

/-- What becomes of a theme file that describes `entries`. -/
structure Decided (text : List Char) (entries : Entries) : Prop where
  /-- No two entries have one name. -/
  distinct : (entries.map (·.1)).Nodup
  succeeds : (∃ theme, read text = .ok theme) ↔ ∀ entry ∈ entries, Sound entry
  follows : ∀ theme, read text = .ok theme → Follows entries .default theme
  /-- The faulty entry whose name comes first in the order of bytes decides the error. -/
  fails : ∀ cause, read text = .error cause ↔ ∃ entry ∈ entries, Fault entry cause ∧
    ∀ other ∈ entries, Utf8.nameBytes other.1 < Utf8.nameBytes entry.1 → Sound other
  /-- The order in which tables and keys are written does not matter. -/
  unordered : ∀ reordered document written, Toml.read? text = some document →
    Toml.read? reordered = some written → document.Alike written →
      (entries? reordered).isSome ∧ read reordered = read text

/-- Every theme file that has the form of one is decided by its entries alone. -/
theorem read_decided {text : List Char} {entries : Entries}
    (described : entries? text = some entries) : Decided text entries := by
  obtain ⟨document, parsed, formed⟩ := Option.bind_eq_some_iff.mp described
  have distinctKeys := Toml.read?_distinct parsed
  have distinct := Entries.ofToml?_distinct distinctKeys formed
  have reads := read_eq_theme described
  refine ⟨distinct, ?_, ?_, ?_, ?_⟩
  · rw [reads]
    exact Entries.isOk_theme_iff entries
  · rw [reads]
    exact fun theme => Entries.theme_follows distinct
  · rw [reads]
    exact fun cause => Entries.theme_eq_error_iff distinct
  · intro reordered other written otherParsed writtenParsed alike
    obtain rfl := Option.some.inj (parsed.symm.trans otherParsed)
    obtain ⟨others, othersFormed, order⟩ := Entries.ofToml?_of_alike distinctKeys alike formed
    have othersDescribed : entries? reordered = some others := by
      unfold entries?
      rw [writtenParsed]
      exact othersFormed
    refine ⟨Option.isSome_of_eq_some othersDescribed, ?_⟩
    rw [reads, read_eq_theme othersDescribed]
    unfold Entries.theme
    rw [Entries.sorted_eq_of_perm distinct order]

/-! ## A file with faults of two kinds -/

/-- By name the first of the entries is sound, the second is of no class and has no colour either,
and the third has no colour. -/
def mixedText : List Char :=
  ("[theme.keyword]\nbg = \"mauve\"\n[theme.comma]\nfg = \"pink\"\n"
    ++ "[theme.builtin]\nfg = \"Grey\"\nbold = true\n").toList

def mixedDocument : Toml.Entries :=
  [("theme", .table .implied
    [("keyword", .table .stated [("bg", .string "mauve")]),
      ("comma", .table .stated [("fg", .string "pink")]),
      ("builtin", .table .stated [("fg", .string "Grey"), ("bold", .boolean true)])])]

def mixedEntries : Entries :=
  [("keyword", { Entry.empty with background := some "mauve" }),
    ("comma", { Entry.empty with foreground := some "pink" }),
    ("builtin", { Entry.empty with foreground := some "Grey", bold := some true })]

/-- The same with other orders of the tables and of the keys in one of them. -/
def remixedText : List Char :=
  ("[theme.builtin]\nbold = true\nfg = \"Grey\"\n[theme.keyword]\nbg = \"mauve\"\n"
    ++ "[theme.comma]\nfg = \"pink\"\n").toList

def remixedDocument : Toml.Entries :=
  [("theme", .table .implied
    [("builtin", .table .stated [("bold", .boolean true), ("fg", .string "Grey")]),
      ("keyword", .table .stated [("bg", .string "mauve")]),
      ("comma", .table .stated [("fg", .string "pink")])])]

theorem mixedDocument_alike : mixedDocument.Alike remixedDocument := by
  have builtin : Value.Alike
      (.table .stated [("fg", .string "Grey"), ("bold", .boolean true)])
      (.table .stated [("bold", .boolean true), ("fg", .string "Grey")]) :=
    .table _ _ (List.Perm.swap _ _ []) rfl (.cons (.same _) (.cons (.same _) .nil))
  have order (first second third : String × Value) :
      [first, second, third].Perm [third, first, second] :=
    @List.perm_append_comm _ [first, second] [third]
  refine ⟨_, .refl _, rfl, .cons (.table _ _ (order _ _ _) rfl ?_) .nil⟩
  exact .cons builtin (.cons (.same _) (.cons (.same _) .nil))

/-- The entry without a class is told in either order: of the faulty ones its name comes first. -/
theorem mixed_decided :
    entries? mixedText = some mixedEntries ∧ Decided mixedText mixedEntries ∧
      read mixedText = .error (.unknownTokenClass "comma") ∧
      read remixedText = .error (.unknownTokenClass "comma") := by
  have parsed : Toml.read? mixedText = some mixedDocument := by cbv
  have reparsed : Toml.read? remixedText = some remixedDocument := by cbv
  have described : entries? mixedText = some mixedEntries := by
    unfold entries?
    rw [parsed]
    rfl
  have decided := read_decided described
  have unknown : ∀ cls : TokenClass, cls.name ≠ "comma" := fun cls => by cases cls <;> decide
  have grey : Entry.Named (some "Grey") := by
    rintro name ⟨⟩
    exact ⟨.bright .black, Color.ofName?_eq_some_iff.mp (by decide)⟩
  have fails : read mixedText = .error (.unknownTokenClass "comma") := by
    refine (decided.fails _).mpr ⟨mixedEntries[1], List.getElem_mem _, .unknownClass unknown, ?_⟩
    intro other member earlier
    rcases List.mem_cons.mp member with rfl | member
    · exact absurd earlier (by decide)
    · rcases List.mem_cons.mp member with rfl | member
      · exact absurd earlier (by decide)
      · rw [List.mem_singleton.mp member]
        exact ⟨⟨.builtin, rfl⟩, grey, fun name given => absurd given (Option.not_mem_none name)⟩
  refine ⟨described, decided, fails, ?_⟩
  rw [(decided.unordered _ _ _ parsed reparsed mixedDocument_alike).2, fails]

end ThemeFile

end Highlighter
