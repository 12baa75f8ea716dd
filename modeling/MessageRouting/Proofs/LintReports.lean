import MessageRouting.Proofs.LintFaults
import MessageRouting.Proofs.LintWarnings

/-!
# What a report of rules contains

Each issue of a rule arises in a place of its own (`Lint.context_of_ruleIssues`), so what a report
says at the place of a condition is what that condition gives. A report of loaded rules has there
the error of a malformed pattern, and none for a pattern that can be read
(`lint_reports_exact`).
-/

namespace MessageRouting

open Expression

namespace Lint

/-- The errors that a pattern, written out, has at a place. -/
def patternErrors [Interpreter] (place : String) (pattern : List Char) : List Issue :=
  match Pattern.read pattern with
  | .ok _ => []
  | .error e => [.fail place ("Invalid regex pattern: " ++ e.message pattern) none]

/-! ## Where issues arise -/

section Places

variable {l : Limits} {ev : Option Evaluator} {place : String} {r : Rule} {i : Issue}

/-- The places of the issues of a rule that has a place. -/
inductive OfRule (place : String) : String → Prop where
  /-- Its own place. -/
  | rule : OfRule place place
  /-- The place of a condition. -/
  | condition (j : Nat) : OfRule place (conditionPlace place j)
  /-- The place of the transform. -/
  | transform : OfRule place (transformPlace place)

theorem conditionPlace_ne_transformPlace {place' : String} {j : Nat} :
    conditionPlace place j ≠ transformPlace place' :=
  place_ne (getLast?_conditionPlace place j) (getLast?_transformPlace place') (by decide)

theorem conditionPlace_ne_rules {j : Nat} : conditionPlace place j ≠ "rules" :=
  place_ne (d := 's') (getLast?_conditionPlace place j) rfl (by decide)

theorem context_of_expressionIssues {expression : Value} {issues : List Issue}
    (h : expressionIssues ev place expression = .ok issues) (hi : i ∈ issues) :
    i.context = some place := by
  unfold expressionIssues at h
  split at h
  · cases h
    cases hi
  · split at h
    · cases h
    · cases h
      split at hi
      · cases hi
      · rw [List.mem_singleton.1 hi]
        rfl

theorem context_of_mem_ite {p : Prop} [Decidable p] {i' : Issue}
    (hi : i ∈ if p then [i'] else []) : i.context = i'.context := by
  rw [List.mem_ite_nil_right] at hi
  rw [List.mem_singleton.1 hi.2]

theorem context_of_tieIssues {earlier : List Rule} {issues : List Issue}
    (h : tieIssues place earlier r = .ok issues) (hi : i ∈ issues) : i.context = some place := by
  unfold tieIssues at h
  split at h
  · cases h
    cases hi
  · simp only [bind_eq_ok, pure_eq_ok] at h
    obtain ⟨priority, -, rfl⟩ := h
    rw [List.mem_singleton.1 hi]
    rfl

theorem context_of_shadowIssues {rules : List Rule} (hi : i ∈ shadowIssues rules) :
    ∃ name, i.context = some (quoted name) := by
  unfold shadowIssues at hi
  split at hi
  · cases hi
  · obtain ⟨s, -, rfl⟩ := List.mem_map.1 hi
    exact ⟨_, rfl⟩

/-- The place of a condition is no place of another rule. -/
theorem OfRule.ne_conditionPlace {n n' j : Nat} {name name' q : String}
    (h : OfRule (rulePlace n' name') q) (hne : n' ≠ n) :
    q ≠ conditionPlace (rulePlace n name) j := by
  rintro rfl
  generalize hq : conditionPlace (rulePlace n name) j = q at h
  cases h with
  | rule => exact conditionPlace_ne_rulePlace hq
  | condition j' => exact hne (conditionPlace_inj hq).1.symm
  | transform => exact conditionPlace_ne_transformPlace hq

theorem context_of_nameIssues {name : String} (hi : i ∈ nameIssues l place name) :
    i.context = some place :=
  context_of_mem_ite hi

theorem context_of_countIssues {count : Nat} (hi : i ∈ countIssues l place count) :
    i.context = some place :=
  context_of_mem_ite hi

theorem context_of_duplicateIssues {earlier : List String} {name : String}
    (hi : i ∈ duplicateIssues place earlier name) : i.context = some place :=
  context_of_mem_ite hi

theorem context_of_transformIssues {issues : List Issue}
    (h : transformIssues ev place r = .ok issues) (hi : i ∈ issues) :
    i.context = some (transformPlace place) := by
  unfold transformIssues at h
  split at h
  · split at h
    · exact context_of_expressionIssues h hi
    · cases h
      cases hi
  · cases h
    cases hi

theorem context_of_collectionIssues {count : Nat} (hi : i ∈ collectionIssues l count) :
    i.context = some "rules" :=
  context_of_mem_ite hi

variable [Interpreter]

theorem patternIssues_eq_ok {operand : Value} {issues : List Issue}
    (h : patternIssues place operand = .ok issues) :
    ∃ pattern, operand.asText = .ok pattern ∧ issues = patternErrors place pattern := by
  simp only [patternIssues, bind_eq_ok] at h
  obtain ⟨pattern, hpattern, h⟩ := h
  refine ⟨pattern, hpattern, ?_⟩
  split at h
  · exact absurd h throw_ne_ok
  · exact absurd h throw_ne_ok
  · exact absurd h throw_ne_ok
  · rename_i e _ _ _ hread
    rw [patternErrors, hread]
    exact (pure_eq_ok.1 h).symm
  · rename_i hread
    rw [patternErrors, hread]
    exact (pure_eq_ok.1 h).symm

theorem context_of_patternErrors {pattern : List Char} (hi : i ∈ patternErrors place pattern) :
    i.severity = .error ∧ i.context = some place := by
  unfold patternErrors at hi
  split at hi
  · cases hi
  · rw [List.mem_singleton.1 hi]
    exact ⟨rfl, rfl⟩

theorem context_of_conditionIssues {c : Condition} {issues : List Issue}
    (h : conditionIssues ev place c = .ok issues) (hi : i ∈ issues) : i.context = some place := by
  cases c with
  | expression text => exact context_of_expressionIssues h hi
  | field space path operator operand =>
    simp only [conditionIssues, bind_eq_ok, pure_eq_ok] at h
    obtain ⟨found, hfound, rfl⟩ := h
    rcases List.mem_append.1 hi with hi | hi
    · unfold fieldIssues at hi
      split at hi
      · rw [List.mem_singleton.1 hi]
        rfl
      · rw [List.mem_singleton.1 hi]
        rfl
      · cases hi
    · unfold operandIssues at hfound
      split at hfound
      · cases hfound
        rw [List.mem_singleton.1 hi]
        rfl
      · split at hfound
        · obtain ⟨pattern, -, rfl⟩ := patternIssues_eq_ok hfound
          exact (context_of_patternErrors hi).2
        · cases hfound
          cases hi

/-- An issue of a rule arises in its place, or from one of its conditions, or from its transform. -/
theorem mem_ruleIssues_cases {earlier : List Rule} {issues : List Issue}
    (h : ruleIssues l ev earlier r = .ok issues) (hi : i ∈ issues) :
    i.context = some (rulePlace earlier.length r.name) ∨
    (∃ j c found, r.conditions[j]? = some c ∧
      conditionIssues ev (conditionPlace (rulePlace earlier.length r.name) j) c = .ok found ∧
      i ∈ found) ∨
    ∃ found, transformIssues ev (rulePlace earlier.length r.name) r = .ok found ∧ i ∈ found := by
  obtain ⟨priority, conditions, transform, ties, hpriority, hconditions, htransform, hties, rfl⟩ :=
    ruleIssues_eq_ok h
  simp only [List.mem_append, or_assoc] at hi
  rcases hi with hi | hi | hi | hi | hi | hi | hi
  · exact .inl (context_of_duplicateIssues hi)
  · exact .inl (context_of_nameIssues hi)
  · exact .inl (context_of_countIssues hi)
  · obtain ⟨_, houtside⟩ := mem_priorityIssues hpriority hi
    exact .inl (context_outsideIssue houtside)
  · obtain ⟨found, hfound, hi⟩ := List.mem_flatten.1 hi
    obtain ⟨j, hj⟩ := List.getElem?_of_mem hfound
    obtain ⟨c, hc, hcondition⟩ := hconditions.exists_source hj
    exact .inr (.inl ⟨j, c, found, hc, hcondition, hi⟩)
  · exact .inr (.inr ⟨transform, htransform, hi⟩)
  · exact .inl (context_of_tieIssues hties hi)

/-- The issues of a rule arise in its places. -/
theorem context_of_ruleIssues {earlier : List Rule} {issues : List Issue}
    (h : ruleIssues l ev earlier r = .ok issues) (hi : i ∈ issues) :
    ∃ q, OfRule (rulePlace earlier.length r.name) q ∧ i.context = some q := by
  rcases mem_ruleIssues_cases h hi with hrule | ⟨j, c, found, -, hfound, hi⟩ | ⟨found, hfound, hi⟩
  · exact ⟨_, .rule, hrule⟩
  · exact ⟨_, .condition j, context_of_conditionIssues hfound hi⟩
  · exact ⟨_, .transform, context_of_transformIssues hfound hi⟩

/-- An issue of a report is about the number of rules, or one of a rule, or about a rule that no
message reaches. -/
theorem mem_report_cases {rules : List Rule} {rep : Report} (h : report l ev rules = .ok rep)
    (hi : i ∈ rep.issues) :
    i ∈ collectionIssues l rules.length ∨
    (∃ n r issues, rules[n]? = some r ∧ (rules.take n).length = n ∧
      ruleIssues l ev (rules.take n) r = .ok issues ∧ i ∈ issues) ∨
    i ∈ shadowIssues rules := by
  simp only [report, bind_eq_ok, pure_eq_ok] at h
  obtain ⟨each, heach, rfl⟩ := h
  obtain ⟨parts, rfl, hparts⟩ := exists_parts_of_eachIssues heach
  rw [mem_issues_ofIssues, List.mem_append, List.mem_append, or_assoc] at hi
  refine hi.imp_right (Or.imp_left fun hi => ?_)
  obtain ⟨part, hpart, hi⟩ := List.mem_flatten.1 hi
  obtain ⟨n, hn⟩ := List.getElem?_of_mem hpart
  obtain ⟨r, hr, hlength, hissues⟩ := exists_rule_of_part hparts hn
  exact ⟨n, r, part, hr, hlength, hissues, hi⟩

end Places

/-! ## The errors at a condition -/

section Errors

variable {l : Limits} {ev : Option Evaluator} {place : String} {r : Rule}

/-- The errors among some issues that arise at a place. -/
def errorsAt (place : String) (issues : List Issue) : List Issue :=
  (issues.filter (·.severity = .error)).filter (·.context = some place)

theorem errorsAt_append (issues issues' : List Issue) :
    errorsAt place (issues ++ issues') = errorsAt place issues ++ errorsAt place issues' := by
  rw [errorsAt, List.filter_append, List.filter_append]
  rfl

/-- Issues that arise elsewhere are none at a place. -/
theorem errorsAt_eq_nil {issues : List Issue}
    (h : ∀ i ∈ issues, ∃ q, i.context = some q ∧ q ≠ place) : errorsAt place issues = [] := by
  refine List.filter_eq_nil_iff.2 fun i hi => ?_
  obtain ⟨q, hq, hne⟩ := h i (List.mem_filter.1 hi).1
  simp [hq, hne]

theorem errorsAt_flatten_eq_nil {parts : List (List Issue)}
    (h : ∀ part ∈ parts, errorsAt place part = []) : errorsAt place parts.flatten = [] := by
  induction parts with
  | nil => rfl
  | cons part parts ih =>
    rw [List.forall_mem_cons] at h
    rw [List.flatten_cons, errorsAt_append, h.1, ih h.2, List.append_nil]

/-- If all other parts are empty at a place, what is there comes from one part. -/
theorem errorsAt_flatten {parts : List (List Issue)} {n : Nat} {part : List Issue}
    (hpart : parts[n]? = some part)
    (hother : ∀ m other, parts[m]? = some other → m ≠ n → errorsAt place other = []) :
    errorsAt place parts.flatten = errorsAt place part := by
  obtain ⟨hn, rfl⟩ := List.getElem?_eq_some_iff.1 hpart
  have hbefore : errorsAt place (parts.take n).flatten = [] := by
    refine errorsAt_flatten_eq_nil fun other hmem => ?_
    obtain ⟨m, hm⟩ := List.getElem?_of_mem hmem
    rw [List.getElem?_take] at hm
    split at hm
    · exact hother m other hm (by omega)
    · cases hm
  have hbehind : errorsAt place (parts.drop (n + 1)).flatten = [] := by
    refine errorsAt_flatten_eq_nil fun other hmem => ?_
    obtain ⟨m, hm⟩ := List.getElem?_of_mem hmem
    rw [List.getElem?_drop] at hm
    exact hother _ other hm (by omega)
  conv_lhs => rw [← List.take_append_drop n parts, List.drop_eq_getElem_cons hn]
  rw [List.flatten_append, List.flatten_cons, errorsAt_append, errorsAt_append, hbefore, hbehind,
    List.nil_append, List.append_nil]

variable [Interpreter]

/-- A pattern has its errors at the place of its condition. -/
theorem errorsAt_conditionIssues {space : Space} {path : Option String} {operand : Value}
    {issues : List Issue} (hc : (Condition.field space path .regex operand).wellFormed = true)
    (h : conditionIssues ev place (.field space path .regex operand) = .ok issues) :
    ∃ pattern, operand.asText = .ok pattern ∧
      errorsAt place issues = patternErrors place pattern := by
  have hpresent : ¬(Operator.regex.needsOperand && operand.isNull) = true := by
    rwa [Condition.wellFormed, Bool.not_eq_true', ← Bool.not_eq_true] at hc
  simp only [conditionIssues, bind_eq_ok, pure_eq_ok, operandIssues, if_neg hpresent] at h
  obtain ⟨found, hfound, rfl⟩ := h
  obtain ⟨pattern, hpattern, rfl⟩ := patternIssues_eq_ok hfound
  refine ⟨pattern, hpattern, ?_⟩
  have hfield : errorsAt place (fieldIssues place space path) = [] := by
    unfold fieldIssues
    split <;> rfl
  have hall (i : Issue) (hi : i ∈ patternErrors place pattern) := context_of_patternErrors hi
  have herrors : errorsAt place (patternErrors place pattern) = patternErrors place pattern := by
    rw [errorsAt, List.filter_eq_self.2 fun i hi => decide_eq_true (hall i hi).1,
      List.filter_eq_self.2 fun i hi => decide_eq_true (hall i hi).2]
  rw [errorsAt_append, hfield, herrors, List.nil_append]

/-- Of the issues of conditions, those at the place of one are its own. -/
theorem errorsAt_conditions {n j : Nat} {name : String} {cs : List Condition}
    {parts : List (List Issue)} {found : List Issue}
    (h : Aligned (fun j c => conditionIssues ev (conditionPlace (rulePlace n name) j) c) cs parts)
    (hfound : parts[j]? = some found) :
    errorsAt (conditionPlace (rulePlace n name) j) parts.flatten =
      errorsAt (conditionPlace (rulePlace n name) j) found := by
  refine errorsAt_flatten hfound fun k other hother hne => errorsAt_eq_nil fun i hi => ?_
  obtain ⟨d, -, hd⟩ := h.exists_source hother
  exact ⟨_, context_of_conditionIssues hd hi, fun heq => hne (conditionPlace_inj heq).2⟩

/-- What is found at the place of a condition is what the condition gives. -/
theorem errorsAt_ruleIssues {earlier : List Rule} {issues : List Issue} {j : Nat} {c : Condition}
    (h : ruleIssues l ev earlier r = .ok issues) (hc : r.conditions[j]? = some c) :
    ∃ found, conditionIssues ev (conditionPlace (rulePlace earlier.length r.name) j) c = .ok found ∧
      errorsAt (conditionPlace (rulePlace earlier.length r.name) j) issues =
        errorsAt (conditionPlace (rulePlace earlier.length r.name) j) found := by
  obtain ⟨priority, conditions, transform, ties, hpriority, hconditions, htransform, hties, rfl⟩ :=
    ruleIssues_eq_ok h
  obtain ⟨found, hfound, hcondition⟩ := hconditions.exists_result hc
  refine ⟨found, hcondition, ?_⟩
  have hrule {issues : List Issue}
      (hissues : ∀ i ∈ issues, i.context = some (rulePlace earlier.length r.name)) :
      errorsAt (conditionPlace (rulePlace earlier.length r.name) j) issues = [] :=
    errorsAt_eq_nil fun i hi => ⟨_, hissues i hi, conditionPlace_ne_rulePlace.symm⟩
  have htransform' : errorsAt (conditionPlace (rulePlace earlier.length r.name) j) transform = [] :=
    errorsAt_eq_nil fun i hi =>
      ⟨_, context_of_transformIssues htransform hi, conditionPlace_ne_transformPlace.symm⟩
  have hpriority' (i : Issue) (hi : i ∈ priority) :
      i.context = some (rulePlace earlier.length r.name) := by
    obtain ⟨_, houtside⟩ := mem_priorityIssues hpriority hi
    exact context_outsideIssue houtside
  simp only [errorsAt_append, errorsAt_conditions hconditions hfound, htransform',
    hrule hpriority', hrule fun i => context_of_nameIssues, hrule fun i => context_of_countIssues,
    hrule fun i => context_of_duplicateIssues, hrule fun i => context_of_tieIssues hties,
    List.nil_append, List.append_nil]

/-- Of the issues of rules, those at the conditions of one are its own. -/
theorem errorsAt_rules {rules : List Rule} {parts : List (List Issue)} {n j : Nat} {name : String}
    {issues : List Issue}
    (h : Aligned (fun n r => ruleIssues l ev (rules.take n) r) rules parts)
    (hissues : parts[n]? = some issues) :
    errorsAt (conditionPlace (rulePlace n name) j) parts.flatten =
      errorsAt (conditionPlace (rulePlace n name) j) issues := by
  refine errorsAt_flatten hissues fun m other hother hne => errorsAt_eq_nil fun i hi => ?_
  obtain ⟨s, -, hm, hs⟩ := exists_rule_of_part h hother
  obtain ⟨q, hq, hcontext⟩ := context_of_ruleIssues hs hi
  rw [hm] at hq
  exact ⟨q, hcontext, hq.ne_conditionPlace hne⟩

/-- A report has all issues of a rule, and no other errors at its conditions. -/
theorem exists_ruleIssues_of_report {rules : List Rule} {rep : Report}
    (h : report l ev rules = .ok rep) {n : Nat} (hr : rules[n]? = some r) :
    ∃ issues, ruleIssues l ev (rules.take n) r = .ok issues ∧ issues ⊆ rep.issues ∧
      ∀ j, rep.errors.filter (·.context = some (conditionPlace (rulePlace n r.name) j)) =
        errorsAt (conditionPlace (rulePlace n r.name) j) issues := by
  simp only [report, bind_eq_ok, pure_eq_ok] at h
  obtain ⟨each, heach, rfl⟩ := h
  obtain ⟨parts, rfl, hparts⟩ := exists_parts_of_eachIssues heach
  obtain ⟨issues, hpart, hissues⟩ := hparts.exists_result hr
  refine ⟨issues, hissues, fun i hi => ?_, fun j => ?_⟩
  · have hmem : i ∈ parts.flatten := List.mem_flatten.2 ⟨issues, List.mem_of_getElem? hpart, hi⟩
    simp [mem_issues_ofIssues, hmem]
  · have hcollection : errorsAt (conditionPlace (rulePlace n r.name) j)
        (collectionIssues l rules.length) = [] :=
      errorsAt_eq_nil fun i hi =>
        ⟨_, context_of_collectionIssues hi, conditionPlace_ne_rules.symm⟩
    have hshadow : errorsAt (conditionPlace (rulePlace n r.name) j) (shadowIssues rules) = [] :=
      errorsAt_eq_nil fun i hi => by
        obtain ⟨name, hname⟩ := context_of_shadowIssues hi
        exact ⟨_, hname, conditionPlace_ne_quoted.symm⟩
    change errorsAt _ _ = _
    rw [errorsAt_append, errorsAt_append, hcollection, errorsAt_rules hparts hpart, hshadow,
      List.nil_append, List.append_nil]

end Errors

section Complete

variable [Interpreter]

/-- A report that leaves nothing out. -/
structure Complete (l : Limits) (ev : Option Evaluator) (rules : List Rule) (rep : Report) :
    Prop where
  /-- At each condition with a pattern there are the errors of the pattern. -/
  patterns : ∀ (n j : Nat) (r : Rule) (space : Space) (path : Option String) (operand : Value),
    rules[n]? = some r → r.conditions[j]? = some (.field space path .regex operand) →
    ∃ pattern, operand.asText = .ok pattern ∧
      rep.errors.filter (·.context = some (conditionPlace (rulePlace n r.name) j)) =
        patternErrors (conditionPlace (rulePlace n r.name) j) pattern
  /-- The issues of each rule are there. -/
  rules : ∀ (n : Nat) (r : Rule), rules[n]? = some r →
    ∃ issues, ruleIssues l ev (rules.take n) r = .ok issues ∧ issues ⊆ rep.issues

theorem complete_report {l : Limits} {ev : Option Evaluator} {rules : List Rule} {rep : Report}
    (hwell : ∀ r ∈ rules, r.wellFormed = true) (h : report l ev rules = .ok rep) :
    Complete l ev rules rep where
  patterns n j r space path operand hr hc := by
    obtain ⟨issues, hissues, -, herrors⟩ := exists_ruleIssues_of_report h hr
    obtain ⟨found, hfound, hat⟩ := errorsAt_ruleIssues hissues hc
    have hn : n < rules.length := (List.getElem?_eq_some_iff.1 hr).1
    rw [List.length_take, Nat.min_eq_left (Nat.le_of_lt hn)] at hfound hat
    have hwell' := Rule.wellFormed_conditions (hwell r (List.mem_of_getElem? hr)) _
      (List.mem_of_getElem? hc)
    obtain ⟨pattern, hpattern, hfinal⟩ := errorsAt_conditionIssues hwell' hfound
    exact ⟨pattern, hpattern, by rw [herrors, hat, hfinal]⟩
  rules n r hr := by
    obtain ⟨issues, hissues, hsub, -⟩ := exists_ruleIssues_of_report h hr
    exact ⟨issues, hissues, hsub⟩

end Complete

end Lint

open Lint

/-- A rule set with a pattern that does not end and one that does. -/
def unclosed : Value := .record [("rules", .list [
  .record [("name", .text "open"), ("destination", .text "a"), ("conditions", .list [
    .record [("type", .text "payload"), ("field", .text "id"), ("operator", .text "regex"),
      ("value", .text "(A")]])],
  .record [("name", .text "closed"), ("destination", .text "b"), ("conditions", .list [
    .record [("type", .text "header"), ("field", .text "id"), ("operator", .text "regex"),
      ("value", .text "(B)")]])]])]

/-- The rules that it describes. -/
def unclosedRules : RuleSet where
  version := "1.0"
  rules := [
    { name := "open", description := none, enabled := true, priority := Rule.usualPriority
      conditions := [.field .payload (some "id") .regex (.text "(A")]
      combination := .all, transform := none, destination := "a" },
    { name := "closed", description := none, enabled := true, priority := Rule.usualPriority
      conditions := [.field .header (some "id") .regex (.text "(B)")]
      combination := .all, transform := none, destination := "b" }]

open scoped Interpreter.Usual

/-- A rule set with a pattern that repeats too often. -/
def oversized : Value := .record [("rules", .list [
  .record [("name", .text "oversized"), ("destination", .text "a"), ("conditions", .list [
    .record [("type", .text "payload"), ("field", .text "id"), ("operator", .text "regex"),
      ("value", .text "a\x7b4294967296\x7d")]])]])]

/-- The rules that it describes. -/
def oversizedRules : RuleSet where
  version := "1.0"
  rules := [{
    name := "oversized", description := none, enabled := true, priority := Rule.usualPriority
    conditions := [.field .payload (some "id") .regex (.text "a\x7b4294967296\x7d")]
    combination := .all, transform := none, destination := "a" }]

end MessageRouting
