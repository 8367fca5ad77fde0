import Mathlib.Data.List.Basic
import Highlighter.Toml.Document

/-!
# Keys are given once

However the lines of a document add to its tables, no table of it has a key
twice: a value is put under a key that is new, and a table that a line leads
into takes its own place.
-/

set_option autoImplicit false

namespace Highlighter.Toml

mutual

/-- No table in a value has a key twice. -/
inductive Value.Distinct : Value → Prop where
  | string (content : String) : Value.Distinct (.string content)
  | boolean (value : Bool) : Value.Distinct (.boolean value)
  | integer (value : Int) : Value.Distinct (.integer value)
  | float (literal : String) : Value.Distinct (.float literal)
  | dateTime (literal : String) : Value.Distinct (.dateTime literal)
  | array {items : List Value} (held : ∀ item ∈ items, Value.Distinct item) :
      Value.Distinct (.array items)
  | tables {items : List Entries} (held : ∀ item ∈ items, Entries.Distinct item) :
      Value.Distinct (.tables items)
  | table (origin : Origin) {entries : Entries} (held : Entries.Distinct entries) :
      Value.Distinct (.table origin entries)

/-- No key comes twice in a table, nor in any table in it. -/
inductive Entries.Distinct : Entries → Prop where
  | intro {entries : Entries} (keys : (entries.map (·.1)).Nodup)
      (held : ∀ entry ∈ entries, Value.Distinct entry.2) : Entries.Distinct entries

end

namespace Entries

variable {entries : Entries} {key : String} {value : Value}

theorem Distinct.keys (distinct : entries.Distinct) : (entries.map (·.1)).Nodup := by
  cases distinct with
  | intro keys held => exact keys

theorem Distinct.held (distinct : entries.Distinct) : ∀ entry ∈ entries, entry.2.Distinct := by
  cases distinct with
  | intro keys held => exact held

theorem Distinct.nil : Distinct [] :=
  .intro .nil fun _ member => nomatch member

theorem mem_of_lookup (found : entries.lookup key = some value) : (key, value) ∈ entries := by
  obtain ⟨before, after, split, -⟩ := List.lookup_eq_some_iff.mp found
  rw [split]
  exact List.mem_append_right _ List.mem_cons_self

theorem Distinct.lookup (distinct : entries.Distinct) (found : entries.lookup key = some value) :
    value.Distinct :=
  distinct.held (key, value) (mem_of_lookup found)

theorem mem_put {entry : String × Value} (member : entry ∈ put key value entries) :
    entry = (key, value) ∨ entry ∈ entries := by
  induction entries with
  | nil => exact .inl (List.mem_singleton.mp member)
  | cons first rest inductionHypothesis =>
    unfold put at member
    split at member
    · rcases List.mem_cons.mp member with same | later
      · exact .inl same
      · exact .inr (List.mem_cons_of_mem _ later)
    · rcases List.mem_cons.mp member with same | later
      · exact .inr (same ▸ List.mem_cons_self)
      · exact (inductionHypothesis later).imp_right (List.mem_cons_of_mem _)

theorem nodup_put (keys : (entries.map (·.1)).Nodup) : ((put key value entries).map (·.1)).Nodup := by
  induction entries with
  | nil => exact List.pairwise_singleton _ _
  | cons first rest inductionHypothesis =>
    obtain ⟨other, held⟩ := first
    rw [List.map_cons, List.nodup_cons] at keys
    unfold put
    split
    · rename_i same
      rw [List.map_cons, List.nodup_cons]
      exact ⟨beq_iff_eq.mp same ▸ keys.1, keys.2⟩
    · rename_i different
      rw [List.map_cons, List.nodup_cons]
      refine ⟨fun among => ?_, inductionHypothesis keys.2⟩
      obtain ⟨entry, member, same⟩ := List.mem_map.mp among
      rcases mem_put member with new | old
      · subst new
        exact different (beq_iff_eq.mpr same.symm)
      · exact keys.1 (List.mem_map.mpr ⟨entry, old, same⟩)

theorem Distinct.put (distinct : entries.Distinct) (own : value.Distinct) :
    (put key value entries).Distinct := by
  refine .intro (nodup_put distinct.keys) fun entry member => ?_
  rcases mem_put member with new | old
  · exact new ▸ own
  · exact distinct.held entry old

end Entries

/-! ## Changes of a table -/

/-- A change keeps the keys of the table apart. -/
def Change.KeepsDistinct (change : Change) : Prop :=
  ∀ origin entries origin' entries', change origin entries = some (origin', entries') →
    Entries.Distinct entries → Entries.Distinct entries'

theorem insertNew_keepsDistinct (key : String) {value : Value} (own : value.Distinct) :
    Change.KeepsDistinct (insertNew key value) := by
  intro origin entries origin' entries' changed distinct
  unfold insertNew at changed
  split at changed
  · cases changed
    exact distinct.put own
  · cases changed

theorem stateTable_keepsDistinct (key : String) : Change.KeepsDistinct (stateTable key) := by
  intro origin entries origin' entries' changed distinct
  unfold stateTable at changed
  split at changed
  · cases changed
    exact distinct.put (.table .stated .nil)
  · rename_i held found
    cases changed
    cases distinct.lookup found with
    | table _ held => exact distinct.put (.table .stated held)
  · cases changed

theorem stateNext_keepsDistinct (key : String) : Change.KeepsDistinct (stateNext key) := by
  intro origin entries origin' entries' changed distinct
  unfold stateNext at changed
  split at changed
  · cases changed
    refine distinct.put (.tables fun item member => ?_)
    exact List.mem_singleton.mp member ▸ .nil
  · rename_i held found
    cases changed
    cases distinct.lookup found with
    | tables held =>
      refine distinct.put (.tables fun item member => ?_)
      rcases List.mem_cons.mp member with new | old
      · exact new ▸ .nil
      · exact held item old
  · cases changed

theorem changeAt_keepsDistinct (route : Route) {change : Change} (keeps : change.KeepsDistinct)
    (path : List String) : Change.KeepsDistinct (changeAt route change path) := by
  induction path with
  | nil => exact keeps
  | cons key path inductionHypothesis =>
    intro origin entries origin' entries' changed distinct
    unfold changeAt at changed
    split at changed
    · obtain ⟨⟨inner, held⟩, within, result⟩ := Option.bind_eq_some_iff.mp changed
      cases result
      exact distinct.put (.table inner (inductionHypothesis _ _ _ _ within .nil))
    · rename_i inner held found
      split at changed
      · obtain ⟨⟨inner', held'⟩, within, result⟩ := Option.bind_eq_some_iff.mp changed
        cases result
        cases distinct.lookup found with
        | table _ own =>
          exact distinct.put (.table inner' (inductionHypothesis _ _ _ _ within own))
      · cases changed
    · rename_i latest earlier found
      obtain ⟨⟨inner', held'⟩, within, result⟩ := Option.bind_eq_some_iff.mp changed
      cases result
      cases distinct.lookup found with
      | tables held =>
        refine distinct.put (.tables fun item member => ?_)
        rcases List.mem_cons.mp member with new | old
        · exact new ▸ inductionHypothesis _ _ _ _ within (held latest List.mem_cons_self)
        · exact held item (List.mem_cons_of_mem _ old)
    · cases changed

theorem insertAt_keepsDistinct (path : List String) (key : String) {value : Value}
    (own : value.Distinct) : Change.KeepsDistinct (insertAt path key value) := by
  unfold insertAt
  split
  · exact insertNew_keepsDistinct key own
  · refine changeAt_keepsDistinct .dottedKey ?_ _
    intro origin entries origin' entries' changed distinct
    dsimp only at changed
    split at changed
    · exact insertNew_keepsDistinct key own _ _ _ _ changed distinct
    · cases changed

/-! ## Reading -/

theorem integer?_distinct {number : Int} {value : Value} (made : integer? number = some value) :
    value.Distinct := by
  unfold integer? at made
  split at made
  · cases made
    exact .integer number
  · cases made

theorem readInteger?_distinct {text : List Char} {value : Value}
    (made : readInteger? text = some value) : value.Distinct := by
  unfold readInteger? at made
  repeat' split at made
  all_goals first | exact integer?_distinct made | cases made

theorem ofRun?_distinct {run : List Char} {value : Value} (made : ofRun? run = some value) :
    value.Distinct := by
  unfold ofRun? at made
  split at made
  · cases made
    exact .boolean true
  split at made
  · cases made
    exact .boolean false
  split at made
  · cases made
    exact .dateTime _
  split at made
  · cases made
    exact .float _
  split at made
  · split at made
    · cases made
    · cases made
      exact .float _
  · exact readInteger?_distinct made

theorem readScalar?_distinct {text rest : List Char} {value : Value}
    (made : readScalar? text = some (value, rest)) : value.Distinct := by
  unfold readScalar? at made
  dsimp only at made
  split at made
  · split at made
    · obtain ⟨own, run, same⟩ := Option.map_eq_some_iff.mp made
      cases same
      exact ofRun?_distinct run
    · obtain ⟨own, run, same⟩ := Option.map_eq_some_iff.mp made
      cases same
      exact ofRun?_distinct run
  · obtain ⟨own, run, same⟩ := Option.map_eq_some_iff.mp made
    cases same
    exact ofRun?_distinct run

/-- The three readers of values, which call one another, with the same fuel. -/
structure ReadDistinct (fuel : Nat) : Prop where
  value : ∀ depth text value rest, readValue? depth fuel text = some (value, rest) →
    value.Distinct
  items : ∀ depth items text value rest, (∀ item ∈ items, item.Distinct) →
    readItems? depth items fuel text = some (value, rest) → value.Distinct
  pairs : ∀ depth (entries : Entries) text value rest, entries.Distinct →
    readPairs? depth entries fuel text = some (value, rest) → value.Distinct

namespace ReadDistinct

variable {fuel : Nat} {depth : Nat} {text rest : List Char} {value : Value}

theorem readValue? (read : ReadDistinct fuel)
    (made : Toml.readValue? depth (fuel + 1) text = some (value, rest)) : value.Distinct := by
  unfold Toml.readValue? at made
  split at made
  · cases made
  · obtain ⟨own, string, same⟩ := Option.map_eq_some_iff.mp made
    cases same
    exact .string _
  · obtain ⟨own, string, same⟩ := Option.map_eq_some_iff.mp made
    cases same
    exact .string _
  · split at made
    · exact read.items _ _ _ _ _ (List.forall_mem_nil _) made
    · cases made
  · split at made
    · split at made
      · cases made
        exact .table .inline .nil
      · exact read.pairs _ _ _ _ _ .nil made
    · cases made
  · exact readScalar?_distinct made

theorem readItems? (read : ReadDistinct fuel) {items : List Value}
    (held : ∀ item ∈ items, item.Distinct)
    (made : Toml.readItems? depth items (fuel + 1) text = some (value, rest)) :
    value.Distinct := by
  rw [Toml.readItems?] at made
  obtain ⟨start, -, made⟩ := Option.bind_eq_some_iff.mp made
  split at made
  · cases made
    exact .array fun item member => held item (List.mem_reverse.mp member)
  · obtain ⟨⟨item, after⟩, first, made⟩ := Option.bind_eq_some_iff.mp made
    have more : ∀ other ∈ item :: items, other.Distinct := by
      intro other member
      rcases List.mem_cons.mp member with same | earlier
      · exact same ▸ read.value _ _ _ _ first
      · exact held other earlier
    obtain ⟨next, -, made⟩ := Option.bind_eq_some_iff.mp made
    split at made
    · exact read.items _ _ _ _ _ more made
    · cases made
      exact .array fun other member => more other (List.mem_reverse.mp member)
    · cases made

theorem readPairs? (read : ReadDistinct fuel) {entries : Entries} (distinct : entries.Distinct)
    (made : Toml.readPairs? depth entries (fuel + 1) text = some (value, rest)) :
    value.Distinct := by
  rw [Toml.readPairs?] at made
  obtain ⟨⟨path, key, after⟩, -, made⟩ := Option.bind_eq_some_iff.mp made
  dsimp only at made
  split at made
  · obtain ⟨⟨own, after⟩, first, made⟩ := Option.bind_eq_some_iff.mp made
    obtain ⟨⟨origin, more⟩, inserted, made⟩ := Option.bind_eq_some_iff.mp made
    have wider : Entries.Distinct more :=
      insertAt_keepsDistinct path key (read.value _ _ _ _ first) _ _ _ _ inserted distinct
    dsimp only at made
    split at made
    · exact read.pairs _ _ _ _ _ wider made
    · cases made
      exact .table .inline wider
    · cases made
  · cases made

end ReadDistinct

theorem readDistinct (fuel : Nat) : ReadDistinct fuel := by
  induction fuel with
  | zero =>
    refine ⟨fun depth text value rest made => ?_, fun depth items text value rest held made => ?_,
      fun depth entries text value rest distinct made => ?_⟩
    · rw [readValue?] at made
      cases made
    · rw [readItems?] at made
      cases made
    · rw [readPairs?] at made
      cases made
  | succ fuel inductionHypothesis =>
    exact ⟨fun _ _ _ _ => inductionHypothesis.readValue?,
      fun _ _ _ _ _ => inductionHypothesis.readItems?,
      fun _ _ _ _ _ => inductionHypothesis.readPairs?⟩

namespace Draft

variable {draft next : Draft} {text rest : List Char}

theorem changeIn_distinct {path : List String} {change : Change} (keeps : change.KeepsDistinct)
    (changed : draft.changeIn path change = some next) (distinct : draft.entries.Distinct) :
    next.entries.Distinct := by
  obtain ⟨⟨origin, entries⟩, within, result⟩ := Option.bind_eq_some_iff.mp changed
  cases result
  exact changeAt_keepsDistinct .header keeps path _ _ _ _ within distinct

theorem readHeader?_distinct (read : draft.readHeader? text = some (next, rest))
    (distinct : draft.entries.Distinct) : next.entries.Distinct := by
  unfold readHeader? at read
  split at read
  · obtain ⟨⟨path, key, after⟩, -, read⟩ := Option.bind_eq_some_iff.mp read
    dsimp only at read
    split at read
    · obtain ⟨changed, within, result⟩ := Option.bind_eq_some_iff.mp read
      cases result
      exact (changeIn_distinct (stateNext_keepsDistinct key) within distinct :)
    · cases read
  · obtain ⟨⟨path, key, after⟩, -, read⟩ := Option.bind_eq_some_iff.mp read
    dsimp only at read
    split at read
    · obtain ⟨changed, within, result⟩ := Option.bind_eq_some_iff.mp read
      cases result
      exact (changeIn_distinct (stateTable_keepsDistinct key) within distinct :)
    · cases read

theorem readPair?_distinct (read : draft.readPair? text = some (next, rest))
    (distinct : draft.entries.Distinct) : next.entries.Distinct := by
  obtain ⟨⟨path, key, after⟩, -, read⟩ := Option.bind_eq_some_iff.mp read
  dsimp only at read
  split at read
  · obtain ⟨⟨value, after⟩, first, read⟩ := Option.bind_eq_some_iff.mp read
    obtain ⟨changed, within, result⟩ := Option.bind_eq_some_iff.mp read
    cases result
    have own := (readDistinct _).value _ _ _ _ first
    exact changeIn_distinct (insertAt_keepsDistinct path key own) within distinct
  · cases read

theorem readStatement?_distinct (read : draft.readStatement? text = some (next, rest))
    (distinct : draft.entries.Distinct) : next.entries.Distinct := by
  unfold readStatement? at read
  split at read
  · cases read
    exact distinct
  · exact readHeader?_distinct read distinct
  · split at read
    · cases read
      exact distinct
    · exact readPair?_distinct read distinct

theorem readAll?_distinct {entries : Entries} (fuel : Nat) : ∀ draft text,
    readAll? fuel draft text = some entries → draft.entries.Distinct → entries.Distinct := by
  induction fuel with
  | zero => exact fun _ _ read => nomatch read
  | succ fuel inductionHypothesis =>
    intro draft text read distinct
    obtain ⟨⟨next, rest⟩, statement, read⟩ := Option.bind_eq_some_iff.mp read
    have kept := readStatement?_distinct statement distinct
    dsimp only at read
    split at read
    · cases read
      exact kept
    · obtain ⟨after, -, read⟩ := Option.bind_eq_some_iff.mp read
      exact inductionHypothesis next after read kept

end Draft

/-- No table of a document has a key twice. -/
theorem read?_distinct {text : List Char} {entries : Entries} (read : read? text = some entries) :
    entries.Distinct :=
  Draft.readAll?_distinct _ _ _ read .nil

end Highlighter.Toml
