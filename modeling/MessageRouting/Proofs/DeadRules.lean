import Mathlib.Data.List.Nodup
import MessageRouting.Proofs.LintWarnings
import MessageRouting.Proofs.RunTrace
import MessageRouting.Proofs.Selection

/-!
# Rules and conditions that are dead

A rule without conditions ends the search at its place among the candidates, so a run examines none
of the rules behind it (`examined_of_catchAll`). These are the rules that a report calls
unreachable, and `dead_warnings_sound` is what the report promises: whatever the message is and
whatever evaluates the expressions, such a rule is neither selected nor traced, and a condition
that is said to have no field never holds.
-/

namespace MessageRouting

open Expression Routing

namespace Lint.Report

/-- A report calls the rule of a name unreachable. -/
def Shadows (rep : Report) (name : String) : Prop :=
  ∃ blocker, shadowIssue blocker name ∈ rep.issues

/-- A report says that a condition of the rule of a name has no field. -/
def Fieldless (rep : Report) (position : Nat) (name : String) (index : Nat) : Prop :=
  ∃ tag, fieldIssue (conditionPlace (rulePlace position name) index) tag ∈ rep.issues

end Lint.Report

namespace Routing

variable {evs : Course} {rules : List Rule} {m : Message}

/-! ## The candidates -/

theorem nodup_names_candidates (h : (rules.map (·.name)).Nodup) :
    ((candidates rules).map (·.name)).Nodup :=
  ((candidates_perm rules).map _).nodup_iff.2 (h.sublist (List.filter_sublist.map _))

/-- The rules that are shadowed stand behind one without conditions. -/
theorem candidates_of_shadowed {b : Rule} {rest : List Rule}
    (h : Lint.shadowed rules = some (b, rest)) :
    ∃ front, candidates rules = front ++ b :: rest ∧ b.conditions = [] := by
  unfold Lint.shadowed at h
  split at h
  · cases h
  · rename_i blocker behind hdrop
    cases h
    refine ⟨_, (hdrop ▸ List.takeWhile_append_dropWhile).symm, ?_⟩
    have hhead := List.head?_dropWhile_not (fun r : Rule => !r.conditions.isEmpty)
      (candidates rules)
    rw [hdrop] at hhead
    simpa using hhead

/-! ## The end of the search -/

variable [Interpreter]

/-- A rule without conditions matches. -/
theorem matched_examine_of_nil {r : Rule} (h : r.conditions = []) :
    (examine evs m r).matched = true :=
  matched_examine_iff.2 (.inl h)

/-- **A rule without conditions ends the search** at its place, if not earlier. -/
theorem examined_of_catchAll {front rest : List Rule} {b : Rule}
    (h : candidates rules = front ++ b :: rest) (hb : b.conditions = []) :
    examined evs rules m <+: front ++ [b] := by
  have hlookup : (candidates rules)[front.length]? = some b := by simp [h]
  rcases run_cases evs rules m with ⟨-, -, hall⟩ | ⟨before, r, after, hsplit, he, -, hall, -⟩
  · have hmatched := hall front.length b hlookup
    rw [matched_examine_of_nil hb] at hmatched
    cases hmatched
  · have hle : before.length ≤ front.length := by
      refine Nat.le_of_not_lt fun hlt => ?_
      rw [hsplit, List.getElem?_append_left hlt] at hlookup
      have hmatched := hall front.length b hlookup
      rw [matched_examine_of_nil hb] at hmatched
      cases hmatched
    have hfront : front ++ [b] <+: candidates rules := ⟨rest, by simp [h]⟩
    have hexamined : examined evs rules m <+: candidates rules := ⟨after, by simp [he, hsplit]⟩
    refine List.prefix_of_prefix_length_le hexamined hfront ?_
    simpa [he] using hle

/-- The rule that is found is the last one that is examined. -/
theorem mem_examined_of_found {r : Rule} (h : found evs rules m = some r) :
    r ∈ examined evs rules m := by
  rcases run_cases evs rules m with ⟨-, hf, -⟩ | ⟨before, s, after, -, he, hf, -, -⟩
  · rw [h] at hf
    cases hf
  · obtain rfl : r = s := Option.some.inj (h.symm.trans hf)
    rw [he]
    exact List.mem_append_right _ List.mem_cons_self

/-- The steps of a trace name only rules that were examined. -/
theorem exists_examined_of_mem_trace {s : Step} {name : String}
    (hs : s ∈ (routeAlong evs rules m).result.trace) (hname : s.ruleName = some name) :
    ∃ r ∈ examined evs rules m, r.name = name := by
  have hfound : ∀ r, found evs rules m = some r → r.name = name →
      ∃ r ∈ examined evs rules m, r.name = name :=
    fun r hr hn => ⟨r, mem_examined_of_found hr, hn⟩
  rw [trace_routeAlong, List.mem_append, List.mem_cons] at hs
  rcases hs with hs | rfl | hs
  · obtain ⟨i, hi⟩ := List.getElem?_of_mem hs
    rw [getElem?_conditionSteps, Option.map_eq_some_iff] at hi
    obtain ⟨r, hr, rfl⟩ := hi
    exact ⟨r, List.mem_of_getElem? hr, Option.some.inj hname⟩
  · rcases hf : found evs rules m with _ | r
    · rw [hf] at hname
      cases hname
    · rw [hf] at hname
      exact hfound r hf (Option.some.inj hname)
  · obtain ⟨a, -, rfl⟩ := (mem_transformSteps evs rules m).1 hs
    obtain ⟨r, hr, hn⟩ := Option.map_eq_some_iff.1 hname
    exact hfound r hr hn

/-- The name that a run reports stands in its trace. -/
theorem exists_examined_of_ruleName {name : String}
    (h : (routeAlong evs rules m).result.ruleName = some name) :
    ∃ r ∈ examined evs rules m, r.name = name := by
  rw [ruleName_routeAlong, Option.map_eq_some_iff] at h
  obtain ⟨r, hr, rfl⟩ := h
  exact ⟨r, mem_examined_of_found hr, rfl⟩

/-! ## What a report calls dead -/

/-- No rule behind one without conditions has the name of one that is examined. -/
theorem name_ne_of_shadowed (hnames : (rules.map (·.name)).Nodup) {b r s : Rule}
    {rest : List Rule} (h : Lint.shadowed rules = some (b, rest)) (hr : r ∈ rest)
    (hs : s ∈ examined evs rules m) : s.name ≠ r.name := by
  obtain ⟨front, hsplit, hb⟩ := candidates_of_shadowed h
  have hnodup := nodup_names_candidates hnames
  rw [hsplit, List.append_cons, List.map_append, List.nodup_append] at hnodup
  have hmem := (examined_of_catchAll hsplit hb).subset hs
  exact hnodup.2.2 _ (List.mem_map_of_mem hmem) _ (List.mem_map_of_mem hr)

end Routing

section

variable [Interpreter]

/-- A condition without a field is never met. -/
theorem Condition.not_met_of_empty {ev : Evaluator} {m : Message} {space : Space}
    {path : Option String} {operator : Operator} {operand : Value}
    (h : path = none ∨ path = some "") : ¬ (field space path operator operand).Met ev m := by
  rcases h with rfl | rfl <;> exact Bool.false_ne_true

/-- A rule that needs all its conditions does not apply if one is never met. -/
theorem Rule.not_holds_of_never_met {evs : Course} {m : Message} {r : Rule} {c : Condition}
    (hall : r.combination = .all) (hc : c ∈ r.conditions)
    (hnever : ∀ (ev : Evaluator) (m : Message), ¬ c.Met ev m) : ¬ r.Holds evs m := by
  rintro (hnil | hheld)
  · rw [hnil] at hc
    cases hc
  · rw [hall] at hheld
    obtain ⟨j, hj⟩ := List.getElem?_of_mem hc
    exact hnever _ _ (hheld j c hj)

/-- **What a report calls dead is dead.** If a check of rules with different names gives a report,
then a rule that it calls unreachable is not selected in any run and stands in no step of its trace.
A condition that it says has no field is never met, so a rule that needs it is not selected. -/
theorem dead_warnings_sound {l : Limits} {checker : Option Evaluator} {rules : List Rule}
    {rep : Lint.Report} (hnames : (rules.map (·.name)).Nodup)
    (hreport : Lint.report l checker rules = .ok rep) (evs : Course) (m : Message) :
    (∀ r ∈ rules, rep.Shadows r.name →
      (routeAlong evs rules m).result.ruleName ≠ some r.name ∧
      ∀ s ∈ (routeAlong evs rules m).result.trace, s.ruleName ≠ some r.name) ∧
    ∀ i r j c, rules[i]? = some r → r.conditions[j]? = some c → rep.Fieldless i r.name j →
      (∀ (ev : Evaluator) (m : Message), ¬ c.Met ev m) ∧
      (r.combination = .all → (routeAlong evs rules m).result.ruleName ≠ some r.name) := by
  constructor
  · rintro r - ⟨blocker, hi⟩
    obtain ⟨b, rest, hshadowed, s, hs, hname⟩ := Lint.shadowed_of_mem_report hreport hi
    rw [← hname]
    constructor
    · intro hselected
      obtain ⟨t, ht, htname⟩ := exists_examined_of_ruleName hselected
      exact name_ne_of_shadowed hnames hshadowed hs ht htname
    · intro step hstep htraced
      obtain ⟨t, ht, htname⟩ := exists_examined_of_mem_trace hstep htraced
      exact name_ne_of_shadowed hnames hshadowed hs ht htname
  · rintro i r j c hr hc ⟨tag, hi⟩
    obtain ⟨r', space, path, operator, operand, hr', hc', hpath⟩ :=
      Lint.field_of_mem_report hreport hi
    obtain rfl : r = r' := Option.some.inj (hr.symm.trans hr')
    obtain rfl := Option.some.inj (hc.symm.trans hc')
    refine ⟨fun ev m => Condition.not_met_of_empty hpath, fun hall hselected => ?_⟩
    rw [ruleName_routeAlong, Option.map_eq_some_iff] at hselected
    obtain ⟨s, hs, hname⟩ := hselected
    obtain ⟨k, hk⟩ := selected_of_found hs
    obtain rfl : s = r := List.inj_on_of_nodup_map hnames (List.mem_of_getElem? hk.applies.1)
      (List.mem_of_getElem? hr) hname
    exact Rule.not_holds_of_never_met hall (List.mem_of_getElem? hc)
      (fun ev m => Condition.not_met_of_empty hpath) hk.applies.2.2

end

/-- A rule whose only condition has no field, one that every message matches, and one behind it. -/
def catchAllSecond : List Rule := [
  { name := "gold", description := none, enabled := true, priority := 300
    conditions := [.field .header none .equals (.text "gold")], combination := .all
    transform := none, destination := "desk" },
  { name := "all", description := none, enabled := true, priority := 200, conditions := []
    combination := .all, transform := none, destination := "queue" },
  { name := "late", description := none, enabled := true, priority := Rule.usualPriority
    conditions := [], combination := .any, transform := none, destination := "archive" }]

/-- What a check of these rules reports. -/
def catchAllReport : Lint.Report where
  errors := []
  warnings := [Lint.fieldIssue (Lint.conditionPlace (Lint.rulePlace 0 "gold") 0) "header",
    Lint.shadowIssue "all" "late"]

section

open scoped Interpreter.Usual

theorem dead_warnings_sound_catchAllSecond :
    Lint.report .usual none catchAllSecond = .ok catchAllReport ∧
      ∀ (evs : Course) (m : Message),
        (routeAlong evs catchAllSecond m).result.ruleName ≠ some "late" ∧
        (∀ s ∈ (routeAlong evs catchAllSecond m).result.trace, s.ruleName ≠ some "late") ∧
        (∀ ev : Evaluator, ¬ (Condition.field .header none .equals (.text "gold")).Met ev m) ∧
        (routeAlong evs catchAllSecond m).result.ruleName ≠ some "gold" := by
  have hnames : (catchAllSecond.map (·.name)).Nodup := by decide
  have hcandidates : candidates catchAllSecond = catchAllSecond := by
    rw [candidates]
    exact List.mergeSort_of_pairwise (by decide)
  have heach : Lint.eachIssues .usual none [] catchAllSecond =
      .ok [Lint.fieldIssue (Lint.conditionPlace (Lint.rulePlace 0 "gold") 0) "header"] := by rfl
  have hreport : Lint.report .usual none catchAllSecond = .ok catchAllReport := by
    rw [Lint.report, heach, Lint.shadowIssues, Lint.shadowed, hcandidates]
    rfl
  have hshadows : catchAllReport.Shadows "late" :=
    ⟨"all", List.mem_cons_of_mem _ List.mem_cons_self⟩
  have hfieldless : catchAllReport.Fieldless 0 "gold" 0 := ⟨"header", List.mem_cons_self⟩
  refine ⟨hreport, fun evs m => ?_⟩
  obtain ⟨hunreachable, hnever⟩ := dead_warnings_sound hnames hreport evs m
  have hlate := hunreachable _ (List.mem_of_getElem? (i := 2) rfl) hshadows
  have hgold := hnever 0 _ 0 _ rfl rfl hfieldless
  exact ⟨hlate.1, hlate.2, fun ev => hgold.1 ev m, hgold.2 rfl⟩

end

end MessageRouting
