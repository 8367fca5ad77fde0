import Highlighter.Proofs.Scan.Steps

/-!
# Rules in another order

The first rule that matches decides a step, so the order of two rules counts only
where both match.  If some of the rules precede others, and that settles which
one is the first wherever several match, then all orders that respect it divide
a text alike.  A rule that matches only where an earlier one does can be left out.
-/

set_option autoImplicit false

namespace Highlighter

def Rule.Matches (rule : Rule) (offset : Nat) (text : List Char) : Prop :=
  ∃ found, rule.match? offset text = some found

namespace RuleTable

variable {precedes : Rule → Rule → Prop} {rules : List Rule} {offset : Nat} {text : List Char}

/-- No rule comes before one that precedes it. -/
def Respects (precedes : Rule → Rule → Prop) (rules : List Rule) : Prop :=
  rules.Pairwise fun earlier later => ¬ precedes later earlier

/-- Of two rules that match, one precedes the other, or a third one that matches precedes both. -/
def Settles (precedes : Rule → Rule → Prop) (rules : List Rule) (offset : Nat)
    (text : List Char) : Prop :=
  ∀ rule ∈ rules, ∀ other ∈ rules, rule.Matches offset text → other.Matches offset text →
    rule = other ∨ precedes rule other ∨ precedes other rule ∨
      ∃ third ∈ rules, third.Matches offset text ∧ precedes third rule ∧ precedes third other

/-- A rule that matches while no other one that matches precedes it. -/
structure Leads (precedes : Rule → Rule → Prop) (rules : List Rule) (offset : Nat)
    (text : List Char) (rule : Rule) : Prop where
  mem : rule ∈ rules
  finds : rule.Matches offset text
  free : ∀ other ∈ rules, other ≠ rule → other.Matches offset text → ¬ precedes other rule

theorem Leads.unique (settles : Settles precedes rules offset text) {first second : Rule}
    (one : Leads precedes rules offset text first)
    (another : Leads precedes rules offset text second) : first = second := by
  by_contra different
  rcases settles first one.mem second another.mem one.finds another.finds with
    same | before | after | ⟨third, among, finds, beforeFirst, beforeSecond⟩
  · exact different same
  · exact another.free first one.mem different one.finds before
  · exact one.free second another.mem (Ne.symm different) another.finds after
  · -- The third rule may be the first one, which then precedes the second by itself.
    by_cases same : third = first
    · subst same
      exact another.free third one.mem different one.finds beforeSecond
    · exact one.free third among same finds beforeFirst

/-- The first rule that matches leads, if the order of the table respects what precedes what. -/
theorem leads_of_firstMatch? {table : RuleTable} (respects : Respects precedes table.rules)
    {rule : Rule} {found : Rule.Found}
    (first : table.firstMatch? offset text = some (rule, found)) :
    Leads precedes table.rules offset text rule := by
  obtain ⟨earlier, later, split, search, none⟩ := firstMatch?_eq_some first
  have order := respects
  rw [Respects, split, List.pairwise_append, List.pairwise_cons] at order
  refine ⟨?_, ⟨found, search⟩, ?_⟩
  · rw [split]
    exact List.mem_append_right _ List.mem_cons_self
  · intro other among different finds
    rw [split] at among
    rcases List.mem_append.mp among with before | here
    · obtain ⟨own, search⟩ := finds
      rw [none other before] at search
      cases search
    · rcases List.mem_cons.mp here with same | after
      · exact absurd same different
      · exact order.2.1.1 other after

section Reordered

variable {table : RuleTable} (permutation : rules.Perm table.rules)
  (respects : Respects precedes table.rules) (reordered : Respects precedes rules)
include permutation

theorem Leads.perm {rule : Rule} (leads : Leads precedes rules offset text rule) :
    Leads precedes table.rules offset text rule :=
  ⟨permutation.mem_iff.mp leads.mem, leads.finds, fun other among =>
    leads.free other (permutation.mem_iff.mpr among)⟩

theorem firstMatch?_eq_none_perm (nothing : table.firstMatch? offset text = none) :
    (RuleTable.mk rules).firstMatch? offset text = none := by
  unfold firstMatch? at nothing ⊢
  rw [List.findSome?_eq_none_iff] at nothing ⊢
  exact fun rule among => nothing rule (permutation.mem_iff.mp among)

include respects reordered

theorem firstMatch?_perm (settles : Settles precedes table.rules offset text) :
    (RuleTable.mk rules).firstMatch? offset text = table.firstMatch? offset text := by
  cases here : table.firstMatch? offset text with
  | none => exact firstMatch?_eq_none_perm permutation here
  | some pair =>
    cases there : (RuleTable.mk rules).firstMatch? offset text with
    | none =>
      rw [firstMatch?_eq_none_perm permutation.symm there] at here
      cases here
    | some other =>
      obtain ⟨rule, found⟩ := pair
      obtain ⟨otherRule, otherFound⟩ := other
      have leads := leads_of_firstMatch? respects here
      have otherLeads := (leads_of_firstMatch? reordered there).perm permutation
      have same := otherLeads.unique settles leads
      subst same
      obtain ⟨-, -, -, search, -⟩ := firstMatch?_eq_some here
      obtain ⟨-, -, -, otherSearch, -⟩ := firstMatch?_eq_some there
      rw [search] at otherSearch
      rw [Option.some.inj otherSearch]

/-- Tables of the same rules make the same steps, if the order of both respects what precedes what
and that settles which rule is the first. -/
theorem stepsFrom_perm (settles : ∀ offset text, Settles precedes table.rules offset text)
    (offset : Nat) (text : List Char) :
    (RuleTable.mk rules).stepsFrom offset text = table.stepsFrom offset text :=
  stepsFrom_congr (fun offset text =>
    firstMatch?_perm permutation respects reordered (settles offset text)) offset text

end Reordered

/-! ## Rules that decide nothing -/

/-- The rule matches only where one of the others matches too. -/
def Shadows (others : List Rule) (rule : Rule) : Prop :=
  ∀ offset text, rule.Matches offset text → ∃ other ∈ others, other.Matches offset text

variable {earlier : List Rule} {rule : Rule}

theorem firstMatch?_shadowed (shadowed : Shadows earlier rule) (later : List Rule) (offset : Nat)
    (text : List Char) :
    (RuleTable.mk (earlier ++ later)).firstMatch? offset text
      = (RuleTable.mk (earlier ++ rule :: later)).firstMatch? offset text := by
  unfold firstMatch?
  rw [List.findSome?_append, List.findSome?_append]
  cases first : earlier.findSome? fun other =>
      (other.match? offset text).map fun found => (other, found) with
  | some pair => rfl
  | none =>
    -- No earlier rule matches, so the shadowed one does not match either.
    rw [List.findSome?_eq_none_iff] at first
    cases own : rule.match? offset text with
    | none => simp [own]
    | some found =>
      obtain ⟨other, among, otherFound, finds⟩ := shadowed offset text ⟨found, own⟩
      have none := first other among
      simp [finds] at none

/-- Without a rule that is shadowed by earlier ones a table divides a text alike. -/
theorem tokens_shadowed (shadowed : Shadows earlier rule) (later : List Rule) (text : List Char) :
    (RuleTable.mk (earlier ++ later)).tokens text
      = (RuleTable.mk (earlier ++ rule :: later)).tokens text := by
  unfold tokens steps
  rw [stepsFrom_congr (firstMatch?_shadowed shadowed later)]

end RuleTable

end Highlighter
