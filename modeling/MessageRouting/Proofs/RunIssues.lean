import MessageRouting.Proofs.DraftRun
import MessageRouting.Proofs.JsonValues
import MessageRouting.Proofs.RunTrace

/-!
# The issues of a run

A run has three kinds of issues, in this order: the warnings of the conditions that it evaluated,
the warning that no rule was found, and the error of a transform that failed. `ExactIssues` says
which of them there are; `issues_exact` is the main statement. A run has no issues but an exception
if the payload nests deeper than it can be copied (`runAlong_tooDeep`).
-/

namespace MessageRouting

open Expression Routing

/-- The condition steps of a trace. -/
def conditionStepsOf (trace : List Step) : List Step := trace.filter (·.kind = .condition)

section

variable [Interpreter]

/-- The transform of the rule that was found is enabled and was tried, and the evaluator raised or
answered with a failure. -/
def TransformFails (evs : Course) (rules : List Rule) (m : Message) : Prop :=
  ∃ r t, found evs rules m = some r ∧ r.transform = some t ∧ t.enabled = true ∧
    ∀ o, ((atTransform evs rules m).evaluate (.text t.expression) m.payload).reply = .answered o →
      o.success = false

/-- The issues of a result: warnings of conditions, a warning that no rule was found, and failures
of a transform. -/
structure ExactIssues (evs : Course) (rules : List Rule) (m : Message) (res : RunResult)
    (warnings failures : List Issue) : Prop where
  /-- The issues are these, in this order; there is a warning about the route exactly if no rule
  was found. -/
  issues_eq : res.issues =
    warnings ++ (if res.ruleName = none then [noMatch] else []) ++ failures
  /-- The warnings are those of the conditions of the examined candidates, evaluated in turn. -/
  warnings_eq : warnings = (findings evs m
    (((candidates rules).take (conditionStepsOf res.trace).length).flatMap
      (·.conditions))).filterMap (·.issue)
  /-- They have the messages that stand in the entries of the condition steps. -/
  messages_eq : warnings.map (·.message) =
    (conditionStepsOf res.trace).flatMap fun s => s.entries.filterMap (·.issue)
  /-- All of them are warnings and name conditions as their place. -/
  of_mem_warnings : ∀ i ∈ warnings, i.severity = .warning ∧ i.context = some Finding.place
  /-- There is at most one failure. -/
  length_failures : failures.length ≤ 1
  /-- There is one exactly if a transform was tried and did not succeed. -/
  failures_ne_nil : failures ≠ [] ↔ TransformFails evs rules m
  /-- A failure is an error and names the transform as its place. -/
  of_mem_failures : ∀ i ∈ failures, i.severity = .error ∧ i.context = some "JQ Transformation"

namespace Routing

/-! ## Warnings of conditions -/

/-- A warning is that of a condition at the moment at which it was evaluated. -/
theorem exists_of_mem_issues_findings {evs : Course} {m : Message} {cs : List Condition}
    {i : Issue} (h : i ∈ (findings evs m cs).filterMap (·.issue)) :
    ∃ n, ∃ c ∈ cs, (c.evaluate (evs n) m).finding.issue = some i := by
  obtain ⟨f, hf, hi⟩ := List.mem_filterMap.1 h
  obtain ⟨n, hn⟩ := List.getElem?_of_mem hf
  rw [getElem?_findings, Option.map_eq_some_iff] at hn
  obtain ⟨c, hc, rfl⟩ := hn
  exact ⟨n, c, List.mem_of_getElem? hc, hi⟩

theorem of_mem_issues_findings {evs : Course} {m : Message} {cs : List Condition} {i : Issue}
    (h : i ∈ (findings evs m cs).filterMap (·.issue)) :
    i.severity = .warning ∧ i.context = some Finding.place := by
  obtain ⟨n, c, -, hi⟩ := exists_of_mem_issues_findings h
  exact (c.regular_evaluate (evs n) m).issue hi

/-- The entries of an examination have the messages of its warnings. -/
theorem filterMap_issue_entries_examine (evs : Course) (m : Message) (r : Rule) :
    (examine evs m r).entries.filterMap (·.issue) =
      (examine evs m r).issues.map (·.message) := by
  have h : (examine evs m r).entries.map (·.issue) =
      (findings evs m r.conditions).map fun f => f.issue.map (·.message) := by
    refine List.ext_getElem? fun i => ?_
    rw [List.getElem?_map, List.getElem?_map, getElem?_entries_examine, getElem?_findings,
      Option.map_map, Option.map_map]
    rfl
  have h' := congrArg (List.filterMap id) h
  rw [List.filterMap_map, List.filterMap_map] at h'
  rw [issues_examine, List.map_filterMap]
  exact h'

variable (evs : Course) (rules : List Rule) (m : Message)

theorem conditionStepsOf_trace :
    conditionStepsOf (routeAlong evs rules m).result.trace = conditionSteps evs rules m := by
  have hsteps : (conditionSteps evs rules m).filter (·.kind = .condition) =
      conditionSteps evs rules m := by
    refine List.filter_eq_self.2 fun s hs => ?_
    obtain ⟨i, hi⟩ := List.getElem?_of_mem hs
    rw [getElem?_conditionSteps, Option.map_eq_some_iff] at hi
    obtain ⟨r, -, rfl⟩ := hi
    rfl
  have htransform : (transformSteps evs rules m).filter (·.kind = .condition) = [] := by
    refine List.filter_eq_nil_iff.2 fun s hs => ?_
    obtain ⟨a, -, rfl⟩ := (mem_transformSteps evs rules m).1 hs
    simp [transformStep]
  rw [trace_routeAlong, conditionStepsOf, List.filter_append, List.filter_cons, hsteps,
    htransform]
  cases found evs rules m <;> simp [routeStep]

/-- The condition steps have the messages of the warnings. -/
theorem flatMap_entries_conditionSteps :
    (conditionSteps evs rules m).flatMap (fun s => s.entries.filterMap (·.issue)) =
      ((findings evs m ((examined evs rules m).flatMap (·.conditions))).filterMap
        (·.issue)).map (·.message) := by
  have h : (conditionSteps evs rules m).map (fun s => s.entries.filterMap (·.issue)) =
      (examinations evs m (examined evs rules m)).map fun x => x.2.issues.map (·.message) := by
    refine List.ext_getElem? fun i => ?_
    rw [List.getElem?_map, List.getElem?_map, conditionSteps, List.getElem?_mapIdx,
      getElem?_examinations]
    rcases (examined evs rules m)[i]? with _ | r
    · rfl
    · exact congrArg some (filterMap_issue_entries_examine _ m r)
  rw [List.flatMap_def, h, ← flatMap_issues_examinations, List.map_flatMap, List.flatMap_def]

/-! ## Failures of a transform -/

/-- The failures of the transform that was tried. -/
def transformFailures : List Issue :=
  ((tried evs rules m).filter fun a => !a.outcome.success).toList.map
    fun a => transformIssue a.outcome

theorem mem_transformFailures {i : Issue} :
    i ∈ transformFailures evs rules m ↔ ∃ a, tried evs rules m = some a ∧
      a.outcome.success = false ∧ transformIssue a.outcome = i := by
  simp [transformFailures, Option.filter_eq_some_iff, and_assoc]

theorem transformFailures_ne_nil_iff :
    transformFailures evs rules m ≠ [] ↔ TransformFails evs rules m := by
  constructor
  · intro h
    obtain ⟨i, hi⟩ := List.exists_mem_of_ne_nil _ h
    obtain ⟨a, ha, hs, -⟩ := (mem_transformFailures evs rules m).1 hi
    obtain ⟨r, t, hr, ht, he, rfl⟩ := (tried_eq_some_iff evs rules m).1 ha
    refine ⟨r, t, hr, ht, he, fun o ho => ?_⟩
    cases hsuccess : o.success with
    | false => rfl
    | true => rw [success_attempt.2 ⟨o, ho, hsuccess⟩] at hs; cases hs
  · rintro ⟨r, t, hr, ht, he, hfail⟩
    have ha := (tried_eq_some_iff evs rules m).2 ⟨r, t, hr, ht, he, rfl⟩
    refine List.ne_nil_of_mem ((mem_transformFailures evs rules m).2 ⟨_, ha, ?_, rfl⟩)
    refine Bool.eq_false_iff.2 fun hs => ?_
    obtain ⟨o, ho, hsuccess⟩ := success_attempt.1 hs
    exact absurd hsuccess (by rw [hfail o ho]; exact Bool.false_ne_true)

end Routing

/-! ## All issues -/

theorem exactIssues_routeAlong (evs : Course) (rules : List Rule) (m : Message) :
    ∃ warnings failures, ExactIssues evs rules m (routeAlong evs rules m).result warnings
      failures := by
  refine ⟨(findings evs m ((examined evs rules m).flatMap (·.conditions))).filterMap (·.issue),
    transformFailures evs rules m, ?_⟩
  exact {
    issues_eq := by
      rw [issues_routeAlong, ruleName_routeAlong, transformFailures]
      cases found evs rules m <;> rfl
    warnings_eq := by
      rw [conditionStepsOf_trace, length_conditionSteps, take_length_examined]
    messages_eq := by
      rw [conditionStepsOf_trace, flatMap_entries_conditionSteps]
    of_mem_warnings := fun i hi => of_mem_issues_findings hi
    length_failures := by
      rw [transformFailures]
      cases (tried evs rules m).filter fun a => !a.outcome.success <;> simp
    failures_ne_nil := transformFailures_ne_nil_iff evs rules m
    of_mem_failures := fun i hi => by
      obtain ⟨a, -, -, rfl⟩ := (mem_transformFailures evs rules m).1 hi
      exact ⟨rfl, rfl⟩ }

namespace ExactIssues

variable {evs : Course} {rules : List Rule} {m : Message} {res : RunResult}
  {warnings failures : List Issue}

/-- There are three kinds of issues. -/
theorem mem_cases (h : ExactIssues evs rules m res warnings failures) {i : Issue}
    (hi : i ∈ res.issues) : i ∈ warnings ∨ i = noMatch ∨ i ∈ failures := by
  rw [h.issues_eq, List.mem_append, List.mem_append] at hi
  rcases hi with (hi | hi) | hi
  · exact .inl hi
  · split at hi
    · exact .inr (.inl (List.mem_singleton.1 hi))
    · cases hi
  · exact .inr (.inr hi)

/-- Errors are failures of a transform. -/
theorem mem_failures (h : ExactIssues evs rules m res warnings failures) {i : Issue}
    (hi : i ∈ res.issues) (he : i.severity = .error) : i ∈ failures := by
  rcases h.mem_cases hi with hi | rfl | hi
  · rw [(h.of_mem_warnings i hi).1] at he
    cases he
  · cases he
  · exact hi

theorem failures_subset (h : ExactIssues evs rules m res warnings failures) :
    failures ⊆ res.issues := by
  rw [h.issues_eq]
  exact List.subset_append_right _ _

/-- There is an error exactly if a transform failed. -/
theorem exists_error_iff (h : ExactIssues evs rules m res warnings failures) :
    (∃ i ∈ res.issues, i.severity = .error) ↔ TransformFails evs rules m := by
  rw [← h.failures_ne_nil]
  constructor
  · rintro ⟨i, hi, he⟩
    exact List.ne_nil_of_mem (h.mem_failures hi he)
  · intro hne
    obtain ⟨i, hi⟩ := List.exists_mem_of_ne_nil _ hne
    exact ⟨i, h.failures_subset hi, (h.of_mem_failures i hi).1⟩

/-- An error is the only one and stands last. -/
theorem of_error (h : ExactIssues evs rules m res warnings failures) {i : Issue}
    (hi : i ∈ res.issues) (he : i.severity = .error) :
    ∃ others, res.issues = others ++ [i] ∧ (∀ j ∈ others, j.severity = .warning) ∧
      i.context = some "JQ Transformation" := by
  have hmem := h.mem_failures hi he
  obtain rfl : failures = [i] := by
    obtain ⟨j, rfl⟩ := List.length_eq_one_iff.1
      (Nat.le_antisymm h.length_failures (List.length_pos_of_mem hmem))
    rw [List.mem_singleton.1 hmem]
  refine ⟨_, h.issues_eq, fun j hj => ?_, (h.of_mem_failures i hmem).2⟩
  rcases List.mem_append.1 hj with hj | hj
  · exact (h.of_mem_warnings j hj).1
  · split at hj
    · rw [List.mem_singleton.1 hj]
      rfl
    · cases hj

/-- An issue about a condition is the warning of one that was evaluated. -/
theorem exists_of_condition (h : ExactIssues evs rules m res warnings failures) {i : Issue}
    (hi : i ∈ res.issues) (hc : i.context = some Finding.place) :
    ∃ n, ∃ r ∈ candidates rules, ∃ c ∈ r.conditions,
      (c.evaluate (evs n) m).finding.issue = some i := by
  rcases h.mem_cases hi with hi | rfl | hi
  · rw [h.warnings_eq] at hi
    obtain ⟨n, c, hmem, hissue⟩ := exists_of_mem_issues_findings hi
    obtain ⟨r, hr, hcr⟩ := List.mem_flatMap.1 hmem
    exact ⟨n, r, List.mem_of_mem_take hr, c, hcr, hissue⟩
  · exact absurd hc (by decide)
  · rw [(h.of_mem_failures i hi).2] at hc
    exact absurd hc (by decide)

/-- The only issue about the route is that none was found. -/
theorem eq_noMatch (h : ExactIssues evs rules m res warnings failures) {i : Issue}
    (hi : i ∈ res.issues) (hc : i.context = some matchingPlace) : i = noMatch := by
  rcases h.mem_cases hi with hi | rfl | hi
  · rw [(h.of_mem_warnings i hi).2] at hc
    exact absurd hc (by decide)
  · rfl
  · rw [(h.of_mem_failures i hi).2] at hc
    exact absurd hc (by decide)

end ExactIssues

/-- **The issues of a run are exact.** A run over well-formed rules has a result if its payload can
be copied, also if nothing is taken for granted about the rules while it takes place; otherwise the
refusal to copy it leaves the run. The issues of a result are the warnings of the conditions that
were evaluated, the warning that no rule was found if none was, and the error of a transform if one
failed. An error is therefore unique and stands last, and no fault ends the search for a route. -/
theorem issues_exact (evs : Course) (refusal : Foreign → Fault) {rules : List Rule}
    (h : ∀ r ∈ rules, r.wellFormed = true) (m : Message) :
    (Interpreter.copying.depth < m.payload.height →
      Draft.runAlong (evs.forDrafts refusal) (rules.map Rule.draft) m =
        .error (.fault Interpreter.copying.fault)) ∧
    (m.payload.height ≤ Interpreter.copying.depth →
      ∃ run, Draft.runAlong (evs.forDrafts refusal) (rules.map Rule.draft) m = .ok run ∧
        run = routeAlong evs rules m ∧
        (∃ warnings failures, ExactIssues evs rules m run.result warnings failures) ∧
        ((∃ i ∈ run.result.issues, i.severity = .error) ↔ TransformFails evs rules m) ∧
        (∀ i ∈ run.result.issues, i.severity = .error →
          ∃ others, run.result.issues = others ++ [i] ∧ (∀ j ∈ others, j.severity = .warning) ∧
            i.context = some "JQ Transformation") ∧
        ∀ i ∈ run.result.issues, i.context = some matchingPlace → i = noMatch) := by
  rw [Draft.runAlong_map_draft evs refusal h m]
  constructor
  · intro hdeep
    rw [runAlong_of_lt_height evs rules m hdeep]
    rfl
  · intro hcopied
    rw [runAlong_of_height_le evs rules m hcopied]
    obtain ⟨warnings, failures, hexact⟩ := exactIssues_routeAlong evs rules m
    exact ⟨_, rfl, rfl, ⟨warnings, failures, hexact⟩, hexact.exists_error_iff,
      fun i => hexact.of_error, fun i => hexact.eq_noMatch⟩

end

/-- A rule without conditions; its transform is applied. -/
def rewriting : Rule where
  name := "rewriting"
  description := none
  enabled := true
  priority := Rule.usualPriority
  conditions := []
  combination := .all
  transform := some ⟨true, "."⟩
  destination := "queue"

/-- An evaluator that raises. -/
def raising : Evaluator where
  evaluate _ _ := ⟨.raised (.raised "out of time"), []⟩
  validate _ := ⟨.raised (.raised "out of time"), []⟩

section

open scoped Interpreter.Usual

theorem issues_exact_raising :
    ∃ run, Draft.runAlong (Course.forDrafts (.constant raising) fun _ => .digitLimit)
        ([rewriting].map Rule.draft) Message.empty = .ok run ∧
      ∃ others i, run.result.issues = others ++ [i] ∧ i.severity = .error := by
  have hformed : ∀ r ∈ [rewriting], r.wellFormed = true := by decide
  have hfails : TransformFails (.constant raising) [rewriting] Message.empty :=
    ⟨rewriting, ⟨true, "."⟩, by simp [found, candidates, search, examine, rewriting,
      Combination.holds], rfl, rfl, fun o ho => by cases ho⟩
  obtain ⟨run, hrun, -, -, herror, hlast, -⟩ :=
    (issues_exact (.constant raising) (fun _ => .digitLimit) hformed Message.empty).2 (by decide)
  obtain ⟨i, hi, he⟩ := herror.2 hfails
  obtain ⟨others, hothers, -⟩ := hlast i hi he
  exact ⟨run, hrun, others, i, hothers, he⟩

/-- A message that nests deep. -/
def nested : Message := { Message.empty with payload := (Value.list []).wrapped 600 }

/-- A run whose payload nests deeper than it can be copied has no result. -/
theorem runAlong_tooDeep :
    rewriting.wellFormed = true ∧
      (runAlong (.constant raising) [rewriting] nested).mapError Halt.fault =
        .error (.tooDeep "maximum recursion depth exceeded while calling a Python object") := by
  refine ⟨by decide, ?_⟩
  have hdeep : Interpreter.copying.depth < nested.payload.height := by
    rw [nested, Value.height_wrapped]
    decide
  rw [runAlong_of_lt_height _ _ _ hdeep]
  rfl

end

end MessageRouting
