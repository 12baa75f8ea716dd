import Mathlib.Data.List.Forall2
import Mathlib.Data.List.Induction
import Mathlib.Data.List.Dedup
import Mathlib.Data.Finset.Card
import MessageRouting.Proofs.DeadRules
import MessageRouting.Proofs.LintReports

/-!
# What a report says of a rule among others

Three kinds of issues compare a rule with others: a name that an earlier rule has, a priority that
an earlier enabled rule has, and an enabled rule that is tried after one without conditions. They
are known by how their messages open (`isComparison`), since what is said of a rule by itself opens
with other words (`OwnWording`). A report has exactly one of them at each position that it applies
to, and what else it has is what the rules have by themselves, enabled or not (`exact_report`). So
it is for each of the collections that a checker is given one after the other
(`Checker.check_exact`).
-/

namespace MessageRouting.Lint

open Expression Routing

/-! ## Wording -/

/-- Whether the message of an issue opens with some words. -/
def opensWith (words : String) (i : Issue) : Bool := words.toList.isPrefixOf i.message.toList

/-- How messages about a rule among others open: about its name, its priority and its order. -/
def comparisons : List String :=
  ["Duplicate rule name ", "Rule has same priority ", "Rule is unreachable: "]

/-- Whether an issue is about a rule among others. -/
def isComparison (i : Issue) : Bool := comparisons.any fun words => opensWith words i

/-- How messages about a condition on a field open. -/
def fieldOpenings : List String :=
  ["Invalid regex pattern: ", "payload", "header", "metadata", "'"]

/-- How messages open that are about a rule by itself, apart from those with a number. -/
def ownOpenings : List String :=
  ["Rule name exceeds ", "Priority ", "Invalid JQ expression: "] ++ fieldOpenings

/-- Messages about a rule by itself, or about the number of rules. -/
inductive OwnWording : String → Prop
  /-- They open with their own words. -/
  | words (words rest : String) (own : words ∈ ownOpenings) : OwnWording (words ++ rest)
  /-- They open with a number. -/
  | number (n : Nat) (rest : String) : OwnWording (toString n ++ " " ++ rest)

section Wording

variable {words words' rest place : String} {l : Limits} {ev : Option Evaluator} {r : Rule}
  {i : Issue} {issues : List Issue}

theorem opensWith_append (h : i.message = words ++ rest) : opensWith words i = true := by
  rw [opensWith, h, String.toList_append, List.isPrefixOf_iff_prefix]
  exact List.prefix_append _ _

/-- No text goes on as both of two openings if none of them goes on as the other. -/
theorem opensWith_eq_false (h : i.message = words' ++ rest)
    (hne : ¬words.toList <+: words'.toList ∧ ¬words'.toList <+: words.toList) :
    opensWith words i = false := by
  rw [opensWith, h, String.toList_append, Bool.eq_false_iff, ne_eq, List.isPrefixOf_iff_prefix]
  intro hprefix
  rcases List.prefix_or_prefix_of_prefix hprefix (List.prefix_append _ _) with hp | hp
  · exact hne.1 hp
  · exact hne.2 hp

theorem isComparison_eq_false (h : i.message = words' ++ rest)
    (hne : ∀ words ∈ comparisons,
      ¬words.toList <+: words'.toList ∧ ¬words'.toList <+: words.toList) :
    isComparison i = false := by
  rw [isComparison, List.any_eq_false]
  intro words hwords
  rw [opensWith_eq_false h (hne words hwords)]
  exact Bool.false_ne_true

theorem not_prefix_of_not_mem {c : Char} {cs ds : List Char} (hc : c ∉ ds) (hds : ds ≠ []) :
    ¬c :: cs <+: ds ∧ ¬ds <+: c :: cs := by
  constructor
  · exact fun h => hc (h.subset List.mem_cons_self)
  · intro h
    obtain ⟨d, ds, rfl⟩ := List.exists_cons_of_ne_nil hds
    exact hc ((List.cons_prefix_cons.1 h).1 ▸ List.mem_cons_self)

/-- A message about a rule by itself is not about the rule among others. -/
theorem OwnWording.isComparison_eq_false (h : OwnWording i.message) : isComparison i = false := by
  generalize hm : i.message = message at h
  cases h with
  | words words rest own =>
    have htable : ∀ w' ∈ ownOpenings, ∀ w ∈ comparisons,
        ¬w.toList <+: w'.toList ∧ ¬w'.toList <+: w.toList := by decide
    exact Lint.isComparison_eq_false hm (htable _ own)
  | number n rest =>
    have hletter : ∀ w ∈ comparisons, ∃ c cs, w.toList = c :: cs ∧ c.isDigit = false ∧ c ≠ ' ' := by
      simp only [comparisons, List.forall_mem_cons]
      exact ⟨⟨_, _, rfl, by decide⟩, ⟨_, _, rfl, by decide⟩, ⟨_, _, rfl, by decide⟩, nofun⟩
    refine Lint.isComparison_eq_false hm fun w hw => ?_
    obtain ⟨c, cs, hcs, hdigit, hblank⟩ := hletter w hw
    rw [hcs]
    refine not_prefix_of_not_mem ?_ (by simp)
    simpa [hblank] using not_mem_toString hdigit

/-! ### Messages about a rule by itself -/

theorem ownWording_of_expressionIssues {expression : Value}
    (h : expressionIssues ev place expression = .ok issues) (hi : i ∈ issues) :
    OwnWording i.message := by
  unfold expressionIssues at h
  split at h
  · cases h
    cases hi
  · split at h
    · cases h
    · cases h
      split at hi
      · cases hi
      · rw [List.mem_singleton.1 hi]
        exact .words "Invalid JQ expression: " _ (by decide)

theorem exists_opening_of_fieldIssues [Interpreter] {space : Space} {path : Option String}
    {operator : Operator}
    {operand : Value}
    (h : conditionIssues ev place (.field space path operator operand) = .ok issues)
    (hi : i ∈ issues) : ∃ words ∈ fieldOpenings, ∃ rest, i.message = words ++ rest := by
  have hfield : ∃ words ∈ fieldOpenings, ∃ rest,
      (fieldIssue place space.name).message = words ++ rest := by
    cases space
    · exact ⟨"payload", by decide, _, rfl⟩
    · exact ⟨"header", by decide, _, rfl⟩
    · exact ⟨"metadata", by decide, _, rfl⟩
  simp only [conditionIssues, bind_eq_ok, pure_eq_ok] at h
  obtain ⟨found, hfound, rfl⟩ := h
  rcases List.mem_append.1 hi with hi | hi
  · unfold fieldIssues at hi
    split at hi
    · rwa [List.mem_singleton.1 hi]
    · rwa [List.mem_singleton.1 hi]
    · cases hi
  · unfold operandIssues at hfound
    split at hfound
    · cases hfound
      rw [List.mem_singleton.1 hi]
      exact ⟨"'", by decide, _, by simp only [Issue.fail, quoted, String.append_assoc]; rfl⟩
    · split at hfound
      · obtain ⟨pattern, -, rfl⟩ := patternIssues_eq_ok hfound
        unfold patternErrors at hi
        split at hi
        · cases hi
        · rw [List.mem_singleton.1 hi]
          exact ⟨"Invalid regex pattern: ", by decide, _, rfl⟩
      · cases hfound
        cases hi

theorem ownWording_of_conditionIssues [Interpreter] {c : Condition}
    (h : conditionIssues ev place c = .ok issues) (hi : i ∈ issues) : OwnWording i.message := by
  cases c with
  | expression text => exact ownWording_of_expressionIssues h hi
  | field space path operator operand =>
    obtain ⟨words, hwords, rest, hrest⟩ := exists_opening_of_fieldIssues h hi
    rw [hrest]
    exact .words words rest (List.mem_append_right _ hwords)

theorem ownWording_of_transformIssues (h : transformIssues ev place r = .ok issues)
    (hi : i ∈ issues) : OwnWording i.message := by
  unfold transformIssues at h
  split at h
  · split at h
    · exact ownWording_of_expressionIssues h hi
    · cases h
      cases hi
  · cases h
    cases hi

theorem ownWording_tooMany (count : Nat) (what : String) (most : Int) :
    OwnWording (tooMany count what most) := by
  have hmessage : tooMany count what most =
      toString count ++ " " ++ (what ++ (" defined, the maximum is " ++ toString most)) := by
    simp only [tooMany, String.append_assoc]
  exact hmessage ▸ .number count _

theorem ownWording_of_nameIssues {name : String} (hi : i ∈ nameIssues l place name) :
    OwnWording i.message := by
  rw [nameIssues, List.mem_ite_nil_right] at hi
  rw [List.mem_singleton.1 hi.2]
  have hmessage : "Rule name exceeds " ++ toString l.maxNameLength ++ " characters" =
      "Rule name exceeds " ++ (toString l.maxNameLength ++ " characters") := String.append_assoc ..
  exact hmessage ▸ .words "Rule name exceeds " _ (by decide)

theorem ownWording_of_countIssues {count : Nat} (hi : i ∈ countIssues l place count) :
    OwnWording i.message := by
  rw [countIssues, List.mem_ite_nil_right] at hi
  rw [List.mem_singleton.1 hi.2]
  exact ownWording_tooMany ..

theorem ownWording_of_priorityIssues (h : priorityIssues l place r = .ok issues) (hi : i ∈ issues) :
    OwnWording i.message := by
  obtain ⟨priority, houtside⟩ := mem_priorityIssues h hi
  simp only [outsideIssue, bind_eq_ok, pure_eq_ok] at houtside
  obtain ⟨low, -, high, -, rfl⟩ := houtside
  simp only [Issue.warn, String.append_assoc]
  exact .words "Priority " _ (by decide)

theorem ownWording_of_ownIssues [Interpreter] (h : ownIssues l ev place r = .ok issues)
    (hi : i ∈ issues) :
    OwnWording i.message := by
  simp only [ownIssues, bind_eq_ok, pure_eq_ok] at h
  obtain ⟨priority, hpriority, conditions, hconditions, transform, htransform, rfl⟩ := h
  simp only [List.mem_append, or_assoc] at hi
  rcases hi with hi | hi | hi | hi | hi
  · exact ownWording_of_nameIssues hi
  · exact ownWording_of_countIssues hi
  · exact ownWording_of_priorityIssues hpriority hi
  · obtain ⟨found, hfound, hi⟩ := List.mem_flatten.1 hi
    obtain ⟨⟨c, j⟩, -, hcondition⟩ := exists_of_mem_mapM hconditions found hfound
    exact ownWording_of_conditionIssues hcondition hi
  · exact ownWording_of_transformIssues htransform hi

theorem ownWording_of_collectionIssues {count : Nat} (hi : i ∈ collectionIssues l count) :
    OwnWording i.message := by
  rw [collectionIssues, List.mem_ite_nil_right] at hi
  rw [List.mem_singleton.1 hi.2]
  exact ownWording_tooMany ..

end Wording

/-! ### Issues by their wording -/

/-- Issues whose messages open with some words. -/
def Worded (words : String) (issues : List Issue) : Prop :=
  ∀ i ∈ issues, ∃ rest, i.message = words ++ rest

/-- Issues that are not about a rule among others. -/
def OwnWorded (issues : List Issue) : Prop := ∀ i ∈ issues, OwnWording i.message

section Filters

variable {words words' place : String} {l : Limits} {ev : Option Evaluator} {earlier : List Rule}
  {r : Rule} {issues : List Issue}

theorem Worded.filter_self (h : Worded words issues) : issues.filter (opensWith words) = issues :=
  List.filter_eq_self.2 fun i hi => by
    obtain ⟨rest, hrest⟩ := h i hi
    exact opensWith_append hrest

theorem Worded.filter_other (h : Worded words' issues)
    (hne : ¬words.toList <+: words'.toList ∧ ¬words'.toList <+: words.toList) :
    issues.filter (opensWith words) = [] :=
  List.filter_eq_nil_iff.2 fun i hi => by
    obtain ⟨rest, hrest⟩ := h i hi
    rw [opensWith_eq_false hrest hne]
    exact Bool.false_ne_true

theorem Worded.filter_own (h : Worded words issues) (hwords : words ∈ comparisons) :
    issues.filter (fun i => !isComparison i) = [] :=
  List.filter_eq_nil_iff.2 fun i hi => by
    obtain ⟨rest, hrest⟩ := h i hi
    have hcomparison : isComparison i = true :=
      List.any_eq_true.2 ⟨words, hwords, opensWith_append hrest⟩
    simp [hcomparison]

theorem OwnWorded.filter_comparison (h : OwnWorded issues) (hwords : words ∈ comparisons) :
    issues.filter (opensWith words) = [] :=
  List.filter_eq_nil_iff.2 fun i hi => by
    have hnone := List.any_eq_false.1 (h i hi).isComparison_eq_false
    exact hnone words hwords

theorem OwnWorded.filter_own (h : OwnWorded issues) :
    issues.filter (fun i => !isComparison i) = issues :=
  List.filter_eq_self.2 fun i hi => by rw [(h i hi).isComparison_eq_false]; rfl

theorem worded_duplicateIssues {names : List String} {name : String} :
    Worded "Duplicate rule name " (duplicateIssues place names name) := by
  intro i hi
  rw [duplicateIssues, List.mem_ite_nil_right] at hi
  rw [List.mem_singleton.1 hi.2]
  exact ⟨_, rfl⟩

theorem worded_tieIssues (h : tieIssues place earlier r = .ok issues) :
    Worded "Rule has same priority " issues := by
  intro i hi
  unfold tieIssues at h
  split at h
  · cases h
    cases hi
  · simp only [bind_eq_ok, pure_eq_ok] at h
    obtain ⟨priority, -, rfl⟩ := h
    rw [List.mem_singleton.1 hi]
    exact ⟨_, by simp only [tieIssue, Issue.warn, String.append_assoc]; rfl⟩

theorem worded_shadowIssues {rules : List Rule} :
    Worded "Rule is unreachable: " (shadowIssues rules) := by
  intro i hi
  unfold shadowIssues at hi
  split at hi
  · cases hi
  · obtain ⟨s, -, rfl⟩ := List.mem_map.1 hi
    exact ⟨_, by simp only [shadowIssue, Issue.warn, String.append_assoc]; rfl⟩

/-- The issues of a rule, sorted by their wording. -/
structure Sorted [Interpreter] (l : Limits) (ev : Option Evaluator) (earlier : List Rule) (r : Rule)
    (issues : List Issue) : Prop where
  /-- The name of an earlier rule. -/
  duplicates : issues.filter (opensWith "Duplicate rule name ") =
    duplicateIssues (rulePlace earlier.length r.name) (earlier.map (·.name)) r.name
  /-- The priority of an earlier rule. -/
  ties : tieIssues (rulePlace earlier.length r.name) earlier r =
    .ok (issues.filter (opensWith "Rule has same priority "))
  /-- The order of the rules is not told yet. -/
  shadows : issues.filter (opensWith "Rule is unreachable: ") = []
  /-- What is wrong with the rule by itself. -/
  own : ownIssues l ev (rulePlace earlier.length r.name) r =
    .ok (issues.filter fun i => !isComparison i)

theorem sorted_ruleIssues [Interpreter] (h : ruleIssues l ev earlier r = .ok issues) :
    Sorted l ev earlier r issues := by
  simp only [ruleIssues, bind_eq_ok, pure_eq_ok] at h
  obtain ⟨own, hown, ties, hties, rfl⟩ := h
  have hduplicates : Worded "Duplicate rule name "
      (duplicateIssues (rulePlace earlier.length r.name) (earlier.map (·.name)) r.name) :=
    worded_duplicateIssues
  have hown' : OwnWorded own := fun _ => ownWording_of_ownIssues hown
  have hties' := worded_tieIssues hties
  constructor
  · rw [List.filter_append, List.filter_append, hduplicates.filter_self,
      hown'.filter_comparison (by decide), hties'.filter_other (by decide), List.append_nil,
      List.append_nil]
  · rw [List.filter_append, List.filter_append, hduplicates.filter_other (by decide),
      hown'.filter_comparison (by decide), hties'.filter_self, List.nil_append, List.nil_append,
      hties]
  · rw [List.filter_append, List.filter_append, hduplicates.filter_other (by decide),
      hown'.filter_comparison (by decide), hties'.filter_other (by decide)]
    rfl
  · rw [List.filter_append, List.filter_append, hduplicates.filter_own (by decide),
      hown'.filter_own, hties'.filter_own (by decide), List.nil_append, List.append_nil, hown]

end Filters

/-! ## Positions -/

/-- Issues about the positions of a kind, one for each, in an order of the positions. -/
def AtPositions (before : Nat → Nat → Prop) (p : Nat → Prop) (tells : Nat → Issue → Prop)
    (issues : List Issue) : Prop :=
  ∃ positions : List Nat, positions.Pairwise before ∧ (∀ n, n ∈ positions ↔ p n) ∧
    List.Forall₂ tells positions issues

/-- The rule at a position has the name of an earlier one. -/
def Repeats (rules : List Rule) (n : Nat) : Prop :=
  ∃ r m s, rules[n]? = some r ∧ m < n ∧ rules[m]? = some s ∧ s.name = r.name

/-- The enabled rule at a position has the priority of an earlier enabled one. -/
def Ties (rules : List Rule) (n : Nat) : Prop :=
  ∃ r m s, rules[n]? = some r ∧ r.enabled = true ∧ m < n ∧ rules[m]? = some s ∧
    s.enabled = true ∧ s.priority = r.priority

/-- The first enabled rule of a priority. -/
structure FirstOfPriority (rules : List Rule) (priority : Int) (m : Nat) (s : Rule) : Prop where
  /-- Its position. -/
  rule : rules[m]? = some s
  /-- It is enabled. -/
  enabled : s.enabled = true
  /-- It has the priority. -/
  same : s.priority = priority
  /-- No earlier one has. -/
  first : ∀ k u, k < m → rules[k]? = some u → u.enabled = true → u.priority ≠ priority

/-- The first enabled rule without conditions, in the order in which rules are tried. -/
structure FirstCatchAll (rules : List Rule) (m : Nat) (b : Rule) : Prop where
  /-- Its position. -/
  rule : rules[m]? = some b
  /-- It is enabled. -/
  enabled : b.enabled = true
  /-- It has no conditions. -/
  empty : b.conditions = []
  /-- It is tried before all others. -/
  first : ∀ k c, rules[k]? = some c → c.enabled = true → c.conditions = [] → k ≠ m →
    Precedes b m c k

/-- The enabled rule at a position is tried after the first one without conditions. -/
def Unreached (rules : List Rule) (n : Nat) : Prop :=
  ∃ r m b, rules[n]? = some r ∧ r.enabled = true ∧ FirstCatchAll rules m b ∧ Precedes b m r n

section Positions

variable {rules : List Rule} {n : Nat} {r : Rule} {place : String}

theorem mem_take_iff {s : Rule} : s ∈ rules.take n ↔ ∃ m, m < n ∧ rules[m]? = some s := by
  simp only [List.mem_iff_getElem?, List.getElem?_take, Option.ite_none_right_eq_some]

theorem Repeats.exists_rule (h : Repeats rules n) : ∃ r, rules[n]? = some r := by
  obtain ⟨r, -, -, hr, -⟩ := h
  exact ⟨r, hr⟩

theorem Ties.exists_rule (h : Ties rules n) : ∃ r, rules[n]? = some r := by
  obtain ⟨r, -, -, hr, -⟩ := h
  exact ⟨r, hr⟩

theorem repeats_iff (hr : rules[n]? = some r) :
    Repeats rules n ↔ r.name ∈ (rules.take n).map (·.name) := by
  simp only [Repeats, hr, Option.some.injEq, List.mem_map, mem_take_iff]
  constructor
  · rintro ⟨_, m, s, rfl, hm, hs, hname⟩
    exact ⟨s, ⟨m, hm, hs⟩, hname⟩
  · rintro ⟨s, ⟨m, hm, hs⟩, hname⟩
    exact ⟨r, m, s, rfl, hm, hs, hname⟩

/-- The first of the earlier rules that an enabled rule ties with. -/
theorem of_tied? {s : Rule} (hr : rules[n]? = some r) (h : tied? (rules.take n) r = some s) :
    Ties rules n ∧ ∃ m, FirstOfPriority rules r.priority m s := by
  unfold tied? at h
  split at h
  · rename_i henabled
    obtain ⟨hs, before, after, hsplit, hbefore⟩ := List.find?_eq_some_iff_append.1 h
    rw [Bool.and_eq_true, decide_eq_true_eq] at hs
    have hprefix : before ++ [s] <+: rules :=
      (hsplit ▸ ⟨after, by simp⟩ : before ++ [s] <+: rules.take n).trans (List.take_prefix n rules)
    obtain ⟨rest, hrest⟩ := hprefix
    have hlt : before.length < n := by
      have hlength := congrArg List.length hsplit
      simp only [List.length_take, List.length_append, List.length_cons] at hlength
      omega
    have hposition : rules[before.length]? = some s := by simp [← hrest]
    refine ⟨⟨r, _, s, hr, henabled, hlt, hposition, hs.1, hs.2⟩, before.length, hposition, hs.1,
      hs.2, fun k u hk hu hu' hpriority => ?_⟩
    rw [← hrest, List.append_assoc, List.getElem?_append_left hk] at hu
    have hnot := hbefore u (List.mem_of_getElem? hu)
    simp [hu', hpriority] at hnot
  · cases h

/-- A rule that ties with no earlier one. -/
theorem not_ties_of_tied? (hr : rules[n]? = some r) (h : tied? (rules.take n) r = none) :
    ¬Ties rules n := by
  rintro ⟨r', m, s, hr', henabled, hm, hs, hs', hpriority⟩
  obtain rfl : r = r' := Option.some.inj (hr.symm.trans hr')
  rw [tied?, if_pos henabled, List.find?_eq_none] at h
  exact h s (mem_take_iff.2 ⟨m, hm, hs⟩) (by simp [hs', hpriority])

/-! ### Single positions -/

variable {tells : Nat → Issue → Prop} {p : Nat → Prop}

/-- One position gives the issue that belongs to it, or none. -/
def Gives (p : Nat → Prop) (tells : Nat → Issue → Prop) (n : Nat) (issues : List Issue) : Prop :=
  p n ∧ (∃ i, issues = [i] ∧ tells n i) ∨ ¬p n ∧ issues = []

theorem forall₂_filter_range [DecidablePred p] {parts : List (List Issue)}
    (h : ∀ n part, parts[n]? = some part → Gives p tells n part) :
    List.Forall₂ tells ((List.range parts.length).filter p) parts.flatten := by
  -- by the last part, which belongs to the last position
  induction parts using List.reverseRecOn with
  | nil => exact .nil
  | append_singleton parts part ih =>
    have hparts (n : Nat) (other : List Issue) (hn : parts[n]? = some other) :
        Gives p tells n other :=
      h n other (by rw [List.getElem?_append_left (List.getElem?_eq_some_iff.1 hn).1, hn])
    rw [List.length_append, List.length_singleton, List.range_succ, List.filter_append,
      List.flatten_append]
    refine List.rel_append (ih hparts) ?_
    rcases h parts.length part (by simp) with ⟨hp, i, rfl, hi⟩ | ⟨hp, rfl⟩
    · simpa [hp] using hi
    · simp [hp]

/-- Parts that are given position by position are about the positions of a kind. -/
theorem atPositions_flatten {parts : List (List Issue)} (hlength : ∀ n, p n → n < parts.length)
    (h : ∀ n part, parts[n]? = some part → Gives p tells n part) :
    AtPositions (· < ·) p tells parts.flatten := by
  classical
  refine ⟨(List.range parts.length).filter p, List.pairwise_lt_range.filter _, fun n => ?_,
    forall₂_filter_range h⟩
  rw [List.mem_filter, List.mem_range, decide_eq_true_eq]
  exact and_iff_right_of_imp (hlength n)

/-- What is told of a rule that has the name of an earlier one. -/
def TellsRepeated (rules : List Rule) (n : Nat) (i : Issue) : Prop :=
  ∃ r, rules[n]? = some r ∧
    i = .fail (rulePlace n r.name) ("Duplicate rule name " ++ quoted r.name) none

/-- What is told of a rule that has the priority of an earlier one: the name of the first. -/
def TellsTied (rules : List Rule) (n : Nat) (i : Issue) : Prop :=
  ∃ r m s priority, rules[n]? = some r ∧ FirstOfPriority rules r.priority m s ∧
    integer r.priority = .ok priority ∧ i = tieIssue (rulePlace n r.name) priority s.name

/-- What is told of a rule that no message reaches: the name of the one before it. -/
def TellsUnreached (rules : List Rule) (n : Nat) (i : Issue) : Prop :=
  ∃ r m b, rules[n]? = some r ∧ FirstCatchAll rules m b ∧ i = shadowIssue b.name r.name

theorem gives_duplicateIssues (hr : rules[n]? = some r) :
    Gives (Repeats rules) (TellsRepeated rules) n
      (duplicateIssues (rulePlace n r.name) ((rules.take n).map (·.name)) r.name) := by
  unfold duplicateIssues
  split
  · rename_i h
    exact .inl ⟨(repeats_iff hr).2 (List.contains_iff_mem.1 h), _, rfl, r, hr, rfl⟩
  · rename_i h
    exact .inr ⟨mt (repeats_iff hr).1 (mt List.contains_iff_mem.2 h), rfl⟩

theorem gives_tieIssues (hr : rules[n]? = some r) {issues : List Issue}
    (h : tieIssues (rulePlace n r.name) (rules.take n) r = .ok issues) :
    Gives (Ties rules) (TellsTied rules) n issues := by
  unfold tieIssues at h
  split at h
  · rename_i hnone
    obtain rfl := Except.ok.inj h
    exact .inr ⟨not_ties_of_tied? hr hnone, rfl⟩
  · rename_i s hs
    simp only [bind_eq_ok, pure_eq_ok] at h
    obtain ⟨priority, hpriority, rfl⟩ := h
    obtain ⟨hties, m, hfirst⟩ := of_tied? hr hs
    exact .inl ⟨hties, _, rfl, r, m, s, priority, hr, hfirst, hpriority, rfl⟩

/-! ### The number of ties -/

theorem ties_append_of_lt (h : n < rules.length) : Ties (rules ++ [r]) n ↔ Ties rules n := by
  unfold Ties
  rw [List.getElem?_append_left h]
  constructor
  · rintro ⟨r', m, s, hr', henabled, hm, hs, hrest⟩
    rw [List.getElem?_append_left (hm.trans h)] at hs
    exact ⟨r', m, s, hr', henabled, hm, hs, hrest⟩
  · rintro ⟨r', m, s, hr', henabled, hm, hs, hrest⟩
    exact ⟨r', m, s, hr', henabled, hm, by rw [List.getElem?_append_left (hm.trans h), hs], hrest⟩

/-- The priorities of the enabled rules. -/
def priorities (rules : List Rule) : List Int := (rules.filter (·.enabled)).map (·.priority)

theorem ties_length_iff :
    Ties (rules ++ [r]) rules.length ↔ r.enabled = true ∧ r.priority ∈ priorities rules := by
  simp only [Ties, priorities, List.getElem?_concat_length, Option.some.injEq, List.mem_map,
    List.mem_filter]
  constructor
  · rintro ⟨_, m, s, rfl, henabled, hm, hs, hs', hpriority⟩
    rw [List.getElem?_append_left hm] at hs
    exact ⟨henabled, s, ⟨List.mem_of_getElem? hs, hs'⟩, hpriority⟩
  · rintro ⟨henabled, s, ⟨hs, hs'⟩, hpriority⟩
    obtain ⟨m, hm⟩ := List.getElem?_of_mem hs
    have hlt := (List.getElem?_eq_some_iff.1 hm).1
    exact ⟨r, m, s, rfl, henabled, hlt, by rw [List.getElem?_append_left hlt, hm], hs', hpriority⟩

open scoped Classical in
/-- Each enabled rule ties or is the first of its priority. -/
theorem length_filter_ties (rules : List Rule) :
    ((List.range rules.length).filter (Ties rules)).length + (priorities rules).toFinset.card =
      (priorities rules).length := by
  -- by the last rule, which is tied if its priority is among those before it
  induction rules using List.reverseRecOn with
  | nil => rfl
  | append_singleton rules r ih =>
    have hbefore : (List.range rules.length).filter (Ties (rules ++ [r])) =
        (List.range rules.length).filter (Ties rules) :=
      List.filter_congr fun n hn => by
        rw [decide_eq_decide, ties_append_of_lt (List.mem_range.1 hn)]
    rw [List.length_append, List.length_singleton, List.range_succ, List.filter_append, hbefore,
      List.length_append]
    by_cases henabled : r.enabled = true
    · have hlast : priorities (rules ++ [r]) = priorities rules ++ [r.priority] := by
        simp [priorities, henabled]
      rw [hlast, List.toFinset_append, List.length_append, List.length_singleton]
      by_cases hmem : r.priority ∈ priorities rules
      · have hties : Ties (rules ++ [r]) rules.length := ties_length_iff.2 ⟨henabled, hmem⟩
        have hunion : (priorities rules).toFinset ∪ [r.priority].toFinset =
            (priorities rules).toFinset := by simpa using hmem
        rw [hunion, List.filter_singleton, decide_eq_true hties, cond_true, List.length_singleton]
        omega
      · have hties : ¬Ties (rules ++ [r]) rules.length := fun h => hmem (ties_length_iff.1 h).2
        have hcard : ((priorities rules).toFinset ∪ [r.priority].toFinset).card =
            (priorities rules).toFinset.card + 1 := by
          rw [List.toFinset_cons, List.toFinset_nil, insert_empty_eq,
            Finset.card_union_of_disjoint (by simpa using hmem), Finset.card_singleton]
        rw [hcard, List.filter_singleton, decide_eq_false hties, cond_false, List.length_nil]
        omega
    · have hlast : priorities (rules ++ [r]) = priorities rules := by simp [priorities, henabled]
      have hties : ¬Ties (rules ++ [r]) rules.length := fun h => henabled (ties_length_iff.1 h).1
      rw [hlast, List.filter_singleton, decide_eq_false hties, cond_false, List.length_nil]
      omega

/-- There are as many ties as enabled rules beyond the different priorities. -/
theorem length_ties {positions : List Nat} (hpairwise : positions.Pairwise (· < ·))
    (hmem : ∀ n, n ∈ positions ↔ Ties rules n) :
    positions.length + (priorities rules).dedup.length = (priorities rules).length := by
  classical
  have hperm : positions.Perm ((List.range rules.length).filter (Ties rules)) := by
    refine (List.perm_ext_iff_of_nodup (hpairwise.imp Nat.ne_of_lt)
      (List.nodup_range.filter _)).2 fun n => ?_
    rw [hmem, List.mem_filter, List.mem_range, decide_eq_true_eq]
    refine (and_iff_right_of_imp fun hties => ?_).symm
    obtain ⟨r, hr⟩ := hties.exists_rule
    exact (List.getElem?_eq_some_iff.1 hr).1
  rw [hperm.length_eq, ← List.card_toFinset, ← length_filter_ties rules]

/-! ### The rules that no message reaches -/

/-- The rule at a position is tried before the one at another. -/
def TriedBefore (rules : List Rule) (n n' : Nat) : Prop :=
  ∃ r r', rules[n]? = some r ∧ rules[n']? = some r' ∧ Precedes r n r' n'

/-- Which rules are shadowed: those behind the first one without conditions. -/
theorem shadowed_cases (rules : List Rule) :
    (shadowed rules = none ∧ ∀ x ∈ ranked rules, x.1.conditions ≠ []) ∨
    ∃ front b m rest, ranked rules = front ++ (b, m) :: rest ∧
      (∀ x ∈ front, x.1.conditions ≠ []) ∧ b.conditions = [] ∧
      shadowed rules = some (b, rest.map (·.1)) := by
  have hdrop : (candidates rules).dropWhile (fun r => !r.conditions.isEmpty) =
      ((ranked rules).dropWhile fun x => !x.1.conditions.isEmpty).map (·.1) := by
    rw [← map_fst_ranked, List.dropWhile_map]
    rfl
  have hfront : ∀ x ∈ (ranked rules).takeWhile fun x => !x.1.conditions.isEmpty,
      x.1.conditions ≠ [] := fun x hx => by simpa using List.mem_takeWhile_imp hx
  have hall := List.takeWhile_append_dropWhile (p := fun x : Rule × Nat => !x.1.conditions.isEmpty)
    (l := ranked rules)
  unfold shadowed
  rw [hdrop]
  cases hrest : (ranked rules).dropWhile fun x => !x.1.conditions.isEmpty with
  | nil =>
    rw [hrest, List.append_nil] at hall
    exact .inl ⟨rfl, hall ▸ hfront⟩
  | cons x rest =>
    have hhead := List.head?_dropWhile_not (fun x : Rule × Nat => !x.1.conditions.isEmpty)
      (ranked rules)
    rw [hrest] at hall hhead
    exact .inr ⟨_, x.1, x.2, rest, hall.symm, hfront, by simpa using hhead, rfl⟩

/-- A rule without conditions that is enabled is the first one or behind it. -/
theorem firstCatchAll_of_split {front rest : List (Rule × Nat)} {b : Rule} {m : Nat}
    (hsplit : ranked rules = front ++ (b, m) :: rest)
    (hfront : ∀ x ∈ front, x.1.conditions ≠ []) (hb : b.conditions = []) :
    FirstCatchAll rules m b := by
  have hpair := pairwise_ranked rules
  rw [hsplit, List.pairwise_append, List.pairwise_cons] at hpair
  obtain ⟨hrule, henabled⟩ := mem_ranked.1 (hsplit ▸ List.mem_append_right _ List.mem_cons_self :
    (b, m) ∈ ranked rules)
  refine ⟨hrule, henabled, hb, fun k c hc hc' hnil hne => ?_⟩
  have hmem : (c, k) ∈ ranked rules := mem_ranked.2 ⟨hc, hc'⟩
  rw [hsplit, List.mem_append, List.mem_cons] at hmem
  rcases hmem with hmem | hmem | hmem
  · exact absurd hnil (hfront _ hmem)
  · exact absurd (Prod.mk.inj hmem).2 hne
  · exact hpair.2.1.1 _ hmem

theorem FirstCatchAll.unique {m m' : Nat} {b b' : Rule} (h : FirstCatchAll rules m b)
    (h' : FirstCatchAll rules m' b') : m = m' ∧ b = b' := by
  have hm : m = m' := by
    by_contra hne
    exact (h.first m' b' h'.rule h'.enabled h'.empty (Ne.symm hne)).asymm
      (h'.first m b h.rule h.enabled h.empty hne)
  subst hm
  exact ⟨rfl, Option.some.inj (h.rule.symm.trans h'.rule)⟩

/-- **The rules that are told to be unreachable** are those behind the first one without conditions,
in the order in which rules are tried. -/
theorem atPositions_shadowIssues (rules : List Rule) :
    AtPositions (TriedBefore rules) (Unreached rules) (TellsUnreached rules)
      (shadowIssues rules) := by
  rcases shadowed_cases rules with ⟨hnone, hall⟩ | ⟨front, b, m, rest, hsplit, hfront, hb, hsome⟩
  · refine ⟨[], .nil, fun n => iff_of_false List.not_mem_nil ?_, ?_⟩
    · rintro ⟨r, m, b, -, -, hb, -⟩
      exact hall (b, m) (mem_ranked.2 ⟨hb.rule, hb.enabled⟩) hb.empty
    · rw [shadowIssues, hnone]
      exact .nil
  · have hfirst := firstCatchAll_of_split hsplit hfront hb
    have hpair := pairwise_ranked rules
    rw [hsplit, List.pairwise_append, List.pairwise_cons] at hpair
    obtain ⟨-, ⟨hbehind, hrest⟩, hbefore⟩ := hpair
    have hmem : ∀ x ∈ rest, rules[x.2]? = some x.1 ∧ x.1.enabled = true := fun x hx =>
      mem_ranked.1 (by rw [hsplit]; simp [hx])
    refine ⟨rest.map (·.2), ?_, fun n => ?_, ?_⟩
    · refine List.pairwise_map.2 (hrest.imp_of_mem fun {x y} hx hy hxy => ?_)
      exact ⟨x.1, y.1, (hmem x hx).1, (hmem y hy).1, hxy⟩
    · constructor
      · intro hn
        obtain ⟨x, hx, rfl⟩ := List.mem_map.1 hn
        exact ⟨x.1, m, b, (hmem x hx).1, (hmem x hx).2, hfirst, hbehind x hx⟩
      · rintro ⟨r, m', b', hr, henabled, hb', hprecedes⟩
        obtain ⟨rfl, rfl⟩ := hfirst.unique hb'
        have hr' : (r, n) ∈ ranked rules := mem_ranked.2 ⟨hr, henabled⟩
        rw [hsplit, List.mem_append, List.mem_cons] at hr'
        rcases hr' with hr' | hr' | hr'
        · exact absurd (hbefore _ hr' _ List.mem_cons_self) hprecedes.asymm
        · cases hr'
          exact absurd hprecedes (Precedes.irrefl _ _)
        · exact List.mem_map.2 ⟨_, hr', rfl⟩
    · rw [shadowIssues, hsome]
      dsimp only
      rw [List.map_map, List.forall₂_map_left_iff, List.forall₂_map_right_iff, List.forall₂_same]
      exact fun x hx => ⟨x.1, m, b, (hmem x hx).1, hfirst, rfl⟩

end Positions

/-! ## Reports -/

section Reports

variable {l : Limits} {ev : Option Evaluator} {rules : List Rule}

theorem filter_issues_ofIssues (q : Issue → Bool) (issues : List Issue) :
    (Report.ofIssues issues).issues.filter q = (Report.ofIssues (issues.filter q)).issues := by
  simp only [Report.ofIssues, Report.issues, List.filter_append, List.filter_filter, Bool.and_comm]

/-- Issues of one severity stay as they are. -/
theorem issues_ofIssues {severity : Severity} {issues : List Issue}
    (h : ∀ i ∈ issues, i.severity = severity) : (Report.ofIssues issues).issues = issues := by
  cases severity with
  | error =>
    have hwarnings : issues.filter (·.severity = .warning) = [] :=
      List.filter_eq_nil_iff.2 fun i hi => by simp [h i hi]
    have herrors : issues.filter (·.severity = .error) = issues :=
      List.filter_eq_self.2 fun i hi => by simp [h i hi]
    rw [Report.ofIssues, Report.issues, hwarnings, herrors, List.append_nil]
  | warning =>
    have hwarnings : issues.filter (·.severity = .warning) = issues :=
      List.filter_eq_self.2 fun i hi => by simp [h i hi]
    have herrors : issues.filter (·.severity = .error) = [] :=
      List.filter_eq_nil_iff.2 fun i hi => by simp [h i hi]
    rw [Report.ofIssues, Report.issues, hwarnings, herrors, List.nil_append]

/-- A report without errors is valid. -/
theorem valid_ofIssues (issues : List Issue) :
    (Report.ofIssues issues).valid = true ↔
      ∀ i ∈ (Report.ofIssues issues).issues, i.severity ≠ .error := by
  simp only [mem_issues_ofIssues]
  simp [Report.valid, Report.ofIssues]

theorem sorted_ofIssues (issues : List Issue) :
    (Report.ofIssues issues).issues =
      (Report.ofIssues issues).issues.filter (·.severity = .error) ++
        (Report.ofIssues issues).issues.filter (·.severity = .warning) := by
  have hof (severity : Severity) :
      ∀ i ∈ issues.filter (·.severity = severity), i.severity = severity := fun i hi => by
    simpa using (List.mem_filter.1 hi).2
  rw [filter_issues_ofIssues, filter_issues_ofIssues, issues_ofIssues (hof .error),
    issues_ofIssues (hof .warning)]
  rfl

/-- A report that says of each rule among others what there is to say, and nothing else. -/
structure Exact [Interpreter] (l : Limits) (ev : Option Evaluator) (rules : List Rule)
    (rep : Report) : Prop where
  /-- The names that an earlier rule has, in the order of the rules. -/
  repeated : AtPositions (· < ·) (Repeats rules) (TellsRepeated rules)
    (rep.issues.filter (opensWith "Duplicate rule name "))
  /-- The priorities that an earlier enabled rule has, in the order of the rules. -/
  tied : AtPositions (· < ·) (Ties rules) (TellsTied rules)
    (rep.issues.filter (opensWith "Rule has same priority "))
  /-- They are as many as the enabled rules beyond the different priorities. -/
  tied_length : (rep.issues.filter (opensWith "Rule has same priority ")).length +
    (priorities rules).dedup.length = (rules.filter (·.enabled)).length
  /-- The rules that no message reaches, in the order in which rules are tried. -/
  unreached : AtPositions (TriedBefore rules) (Unreached rules) (TellsUnreached rules)
    (rep.issues.filter (opensWith "Rule is unreachable: "))
  /-- All else is about the number of rules and about single rules, enabled or not. -/
  others : ∃ own : List (List Issue),
    Aligned (fun n r => ownIssues l ev (rulePlace n r.name) { r with enabled := true }) rules own ∧
    rep.issues.filter (fun i => !isComparison i) =
      (Report.ofIssues (collectionIssues l rules.length ++ own.flatten)).issues
  /-- The rules can be used if there are no errors. -/
  valid_iff : rep.valid = true ↔ ∀ i ∈ rep.issues, i.severity ≠ .error
  /-- The errors come before the warnings. -/
  sorted : rep.issues =
    rep.issues.filter (·.severity = .error) ++ rep.issues.filter (·.severity = .warning)

/-- What is told at all positions holds of all issues. -/
theorem AtPositions.forall {before : Nat → Nat → Prop} {p : Nat → Prop} {tells : Nat → Issue → Prop}
    {issues : List Issue} (h : AtPositions before p tells issues) {P : Issue → Prop}
    (hP : ∀ n i, tells n i → P i) : ∀ i ∈ issues, P i := by
  obtain ⟨positions, -, -, htells⟩ := h
  induction htells with
  | nil => simp
  | cons hn _ ih => exact List.forall_mem_cons.2 ⟨hP _ _ hn, ih⟩

theorem severity_of_tellsRepeated (n : Nat) (i : Issue) (h : TellsRepeated rules n i) :
    i.severity = .error := by
  obtain ⟨r, -, rfl⟩ := h
  rfl

theorem severity_of_tellsTied (n : Nat) (i : Issue) (h : TellsTied rules n i) :
    i.severity = .warning := by
  obtain ⟨r, m, s, priority, -, -, -, rfl⟩ := h
  rfl

theorem severity_of_tellsUnreached (n : Nat) (i : Issue) (h : TellsUnreached rules n i) :
    i.severity = .warning := by
  obtain ⟨r, m, b, -, -, rfl⟩ := h
  rfl

/-- The issues of each rule, sorted by their wording. -/
theorem sorted_parts [Interpreter] {parts : List (List Issue)}
    (h : Aligned (fun n r => ruleIssues l ev (rules.take n) r) rules parts) {n : Nat}
    {part : List Issue} (hpart : parts[n]? = some part) :
    ∃ r, rules[n]? = some r ∧ (rules.take n).length = n ∧ Sorted l ev (rules.take n) r part := by
  obtain ⟨r, hr, hn, hissues⟩ := exists_rule_of_part h hpart
  exact ⟨r, hr, hn, sorted_ruleIssues hissues⟩

/-- The issues of rules that open with some words are about positions of a kind if those of each
rule are. -/
theorem atPositions_parts [Interpreter] {parts : List (List Issue)} {words : String}
    {p : Nat → Prop}
    {tells : Nat → Issue → Prop}
    (h : Aligned (fun n r => ruleIssues l ev (rules.take n) r) rules parts)
    (hrule : ∀ n, p n → ∃ r, rules[n]? = some r)
    (hgives : ∀ n r part, rules[n]? = some r → (rules.take n).length = n →
      Sorted l ev (rules.take n) r part → Gives p tells n (part.filter (opensWith words))) :
    AtPositions (· < ·) p tells (parts.flatten.filter (opensWith words)) := by
  rw [List.filter_flatten]
  refine atPositions_flatten (fun n hn => ?_) fun n found hfound => ?_
  · obtain ⟨r, hr⟩ := hrule n hn
    obtain ⟨part, hpart, -⟩ := h.exists_result hr
    rw [List.length_map]
    exact (List.getElem?_eq_some_iff.1 hpart).1
  · rw [List.getElem?_map, Option.map_eq_some_iff] at hfound
    obtain ⟨part, hpart, rfl⟩ := hfound
    obtain ⟨r, hr, hlength, hsorted⟩ := sorted_parts h hpart
    exact hgives n r part hr hlength hsorted

/-- The names that are told are those that an earlier rule has. -/
theorem atPositions_repeated [Interpreter] {parts : List (List Issue)}
    (h : Aligned (fun n r => ruleIssues l ev (rules.take n) r) rules parts) :
    AtPositions (· < ·) (Repeats rules) (TellsRepeated rules)
      (parts.flatten.filter (opensWith "Duplicate rule name ")) := by
  refine atPositions_parts h (fun _ => Repeats.exists_rule) fun n r part hr hn hs => ?_
  rw [hs.duplicates, hn]
  exact gives_duplicateIssues hr

/-- The priorities that are told are those that an earlier enabled rule has. -/
theorem atPositions_tied [Interpreter] {parts : List (List Issue)}
    (h : Aligned (fun n r => ruleIssues l ev (rules.take n) r) rules parts) :
    AtPositions (· < ·) (Ties rules) (TellsTied rules)
      (parts.flatten.filter (opensWith "Rule has same priority ")) := by
  refine atPositions_parts h (fun _ => Ties.exists_rule) fun n r part hr hn hs => ?_
  have hties := hs.ties
  rw [hn] at hties
  exact gives_tieIssues hr hties

/-- The single rules do not say that one is unreachable. -/
theorem filter_unreachable_parts [Interpreter] {parts : List (List Issue)}
    (h : Aligned (fun n r => ruleIssues l ev (rules.take n) r) rules parts) :
    parts.flatten.filter (opensWith "Rule is unreachable: ") = [] := by
  rw [List.filter_flatten, List.flatten_eq_nil_iff]
  intro found hfound
  obtain ⟨part, hpart, rfl⟩ := List.mem_map.1 hfound
  obtain ⟨n, hn⟩ := List.getElem?_of_mem hpart
  obtain ⟨r, -, -, hsorted⟩ := sorted_parts h hn
  exact hsorted.shadows

/-- What rules have by themselves is the same if they are disabled. -/
theorem aligned_own [Interpreter] {parts : List (List Issue)}
    (h : Aligned (fun n r => ruleIssues l ev (rules.take n) r) rules parts) :
    Aligned (fun n r => ownIssues l ev (rulePlace n r.name) { r with enabled := true }) rules
      (parts.map fun part => part.filter fun i => !isComparison i) := by
  intro n
  cases hr : rules[n]? with
  | none =>
    have hnone := h n
    rw [hr, Option.map_none, Option.map_eq_none_iff] at hnone
    rw [List.getElem?_map, hnone]
    rfl
  | some r =>
    obtain ⟨part, hpart, -⟩ := h.exists_result hr
    obtain ⟨r', hr', hn, hsorted⟩ := sorted_parts h hpart
    obtain rfl : r = r' := Option.some.inj (hr.symm.trans hr')
    have hissues := hsorted.own
    rw [hn] at hissues
    rw [List.getElem?_map, hpart]
    exact congrArg some hissues.symm

/-- The issues of a report about rules among others come from the single rules and their order. -/
theorem filter_comparison_report {words : String} {severity : Severity} {n : Nat}
    {each found : List Issue} (hwords : words ∈ comparisons)
    (hfound : (each ++ shadowIssues rules).filter (opensWith words) = found)
    (hseverity : ∀ i ∈ found, i.severity = severity) :
    (Report.ofIssues (collectionIssues l n ++ each ++ shadowIssues rules)).issues.filter
      (opensWith words) = found := by
  have hcollection : OwnWorded (collectionIssues l n) := fun _ => ownWording_of_collectionIssues
  rw [filter_issues_ofIssues, List.append_assoc, List.filter_append,
    hcollection.filter_comparison hwords, hfound, List.nil_append, issues_ofIssues hseverity]

/-- **A report is exact.** -/
theorem exact_report [Interpreter] {rep : Report} (h : report l ev rules = .ok rep) :
    Exact l ev rules rep := by
  simp only [report, bind_eq_ok, pure_eq_ok] at h
  obtain ⟨each, heach, rfl⟩ := h
  obtain ⟨parts, rfl, hparts⟩ := exists_parts_of_eachIssues heach
  have hshadows : Worded "Rule is unreachable: " (shadowIssues rules) := worded_shadowIssues
  have hrepeated := atPositions_repeated hparts
  have htied := atPositions_tied hparts
  -- what the order of the rules adds opens with other words
  have hduplicate :
      (parts.flatten ++ shadowIssues rules).filter (opensWith "Duplicate rule name ") =
        parts.flatten.filter (opensWith "Duplicate rule name ") := by
    rw [List.filter_append, hshadows.filter_other (by decide), List.append_nil]
  have htie : (parts.flatten ++ shadowIssues rules).filter (opensWith "Rule has same priority ") =
      parts.flatten.filter (opensWith "Rule has same priority ") := by
    rw [List.filter_append, hshadows.filter_other (by decide), List.append_nil]
  have hshadow : (parts.flatten ++ shadowIssues rules).filter (opensWith "Rule is unreachable: ") =
      shadowIssues rules := by
    rw [List.filter_append, filter_unreachable_parts hparts, hshadows.filter_self, List.nil_append]
  have htie' := filter_comparison_report (l := l) (n := rules.length) (by decide) htie
    (htied.forall severity_of_tellsTied)
  refine ⟨?_, ?_, ?_, ?_, ⟨_, aligned_own hparts, ?_⟩, valid_ofIssues _, sorted_ofIssues _⟩
  · rwa [filter_comparison_report (by decide) hduplicate
      (hrepeated.forall severity_of_tellsRepeated)]
  · rwa [htie']
  · rw [htie']
    obtain ⟨positions, hpairwise, hmem, htells⟩ := htied
    have hlength := length_ties hpairwise hmem
    rw [htells.length_eq] at hlength
    rw [hlength, priorities, List.length_map]
  · rw [filter_comparison_report (by decide) hshadow
      ((atPositions_shadowIssues rules).forall severity_of_tellsUnreached)]
    exact atPositions_shadowIssues rules
  · have hcollection : OwnWorded (collectionIssues l rules.length) := fun _ =>
      ownWording_of_collectionIssues
    rw [filter_issues_ofIssues, List.filter_append, List.filter_append, hcollection.filter_own,
      hshadows.filter_own (by decide), List.append_nil, List.filter_flatten]

end Reports

/-! ## Checkers -/

/-- A checker of collections of rules: what it goes by, and what it found in the last collection. -/
structure Checker where
  /-- The limits. -/
  limits : Limits
  /-- What checks the expressions, if they are checked. -/
  evaluator : Option Evaluator
  /-- What was found in the last collection. -/
  found : Report

/-- Checks a collection: whether its rules can be used. What was found before is dropped. -/
def Checker.check [Interpreter] (c : Checker) (rules : List Rule) :
    Except Fault (Bool × Checker) := do
  let rep ← report c.limits c.evaluator rules
  return (rep.valid, { c with found := rep })

/-- **A checker tells exactly what there is to tell**, whatever it was given before: it names the
rules with the name of an earlier one, the enabled rules with the priority of an earlier enabled
one, and the enabled rules that are tried after one without conditions, each once and in order. It
finds the rules usable if it has no errors to tell. -/
theorem Checker.check_exact [Interpreter] {c c' : Checker} {rules : List Rule} {usable : Bool}
    (h : c.check rules = .ok (usable, c')) :
    Exact c.limits c.evaluator rules c'.found ∧
      (usable = true ↔ ∀ i ∈ c'.found.issues, i.severity ≠ .error) := by
  simp only [check, bind_eq_ok, pure_eq_ok] at h
  obtain ⟨rep, hrep, hc⟩ := h
  cases hc
  have hexact := exact_report hrep
  exact ⟨hexact, hexact.valid_iff⟩

/-- A checker that has found something. -/
def usedChecker : Checker := ⟨.usual, none, ⟨[.fail "rules" "Too many" none], []⟩⟩

/-- A rule that asks for a field, or for nothing. -/
def crowdedRule (name : String) (enabled : Bool) (priority : Int) (asks : Bool) : Rule where
  name := name
  description := none
  enabled := enabled
  priority := priority
  conditions := if asks then [.field .payload (some "id") .present .null] else []
  combination := .all
  transform := none
  destination := "desk"

/-- Rules with the same names and priorities, one of them disabled and three without conditions. -/
def crowded : List Rule := [
  crowdedRule "first" true 5 true, crowdedRule "second" true 5 false,
  crowdedRule "first" false 5 false, crowdedRule "third" true 5 true,
  crowdedRule "second" true 1 false]

/-- What a check of these rules reports. -/
def crowdedReport : Report where
  errors := [
    .fail "rules[2] 'first'" "Duplicate rule name 'first'" none,
    .fail "rules[4] 'second'" "Duplicate rule name 'second'" none]
  warnings := [
    tieIssue "rules[1] 'second'" "5" "first", tieIssue "rules[3] 'third'" "5" "first",
    shadowIssue "second" "third", shadowIssue "second" "second"]

open scoped Interpreter.Usual

theorem Checker.check_exact_crowded :
    usedChecker.check crowded = .ok (false, { usedChecker with found := crowdedReport }) ∧
      Exact .usual none crowded crowdedReport := by
  have hcandidates : candidates crowded = crowded.filter (·.enabled) :=
    List.mergeSort_of_pairwise (by decide)
  have heach : eachIssues .usual none [] crowded = .ok [
      tieIssue "rules[1] 'second'" "5" "first",
      .fail "rules[2] 'first'" "Duplicate rule name 'first'" none,
      tieIssue "rules[3] 'third'" "5" "first",
      .fail "rules[4] 'second'" "Duplicate rule name 'second'" none] := by decide +kernel
  have hshadow : shadowIssues crowded =
      [shadowIssue "second" "third", shadowIssue "second" "second"] := by
    rw [shadowIssues, shadowed, hcandidates]
    rfl
  have hreport : report .usual none crowded = .ok crowdedReport := by
    rw [report, heach, hshadow]
    rfl
  have hcheck : usedChecker.check crowded =
      .ok (false, { usedChecker with found := crowdedReport }) := by
    change (report .usual none crowded >>= fun rep => pure (rep.valid, _)) = _
    rw [hreport]
    rfl
  exact ⟨hcheck, (check_exact hcheck).1⟩

end MessageRouting.Lint
