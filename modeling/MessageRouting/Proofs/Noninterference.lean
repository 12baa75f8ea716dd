import MessageRouting.Proofs.RunIssues
import MessageRouting.Proofs.Selection

/-!
# Transforms do not interfere

The rules, without their transforms, and the answers to the expressions of their conditions decide
where a message goes. Two runs that agree in these give results that agree in their routing, with
the same steps and issues, whatever a transform adds at the end (`transforms_noninterfering`). Such
an addition is the output of the expression of the selected rule, on the payload as it came.
-/

namespace MessageRouting

open Expression Routing

/-- A rule without its transform. -/
def Rule.bare (r : Rule) : Rule := { r with transform := none }

/-- Two evaluators reply alike, at each moment, to the expressions of conditions. -/
def RepliesAlike (evs evs' : Course) (payload : Value) (cs : List Condition) : Prop :=
  ∀ n e, Condition.expression e ∈ cs →
    ((evs n).evaluate (.text e) payload).reply = ((evs' n).evaluate (.text e) payload).reply

/-- What a result says about the routing of a message. There may be the step of a transform at the
end of the trace, and the error of a transform at the end of the issues. -/
structure RunResult.Routes (res : RunResult) (ruleName destination : Option String)
    (conditions : List Step) (route : Step) (issues : List Issue) : Prop where
  /-- The rule that was found. -/
  ruleName_eq : res.ruleName = ruleName
  /-- The destination. -/
  destination_eq : res.destination = destination
  /-- The steps. -/
  trace_eq : ∃ transforms : List Step, res.trace = conditions ++ route :: transforms ∧
    transforms.length ≤ 1 ∧ ∀ s ∈ transforms, s.kind = .transform
  /-- The first steps are those of conditions. -/
  kind_conditions : ∀ s ∈ conditions, s.kind = .condition
  /-- Then comes the step of the route. -/
  kind_route : route.kind = .route
  /-- The issues. -/
  issues_eq : ∃ failures : List Issue, res.issues = issues ++ failures ∧ failures.length ≤ 1 ∧
    ∀ i ∈ failures, i.severity = .error ∧ i.context = some "JQ Transformation"
  /-- No transform has failed before. -/
  context_issues : ∀ i ∈ issues, i.context ≠ some "JQ Transformation"

/-- What a transform gave is what a result holds. -/
structure RunResult.Transforms [Interpreter] (res : RunResult) (evs : Course) (rules : List Rule)
    (m : Message) : Prop where
  /-- A transform that was applied is that of the selected rule, on the payload. -/
  applied : res.transformApplied = true → ∃ i r t o, Selected evs m rules i r ∧
    res.ruleName = some r.name ∧ r.transform = some t ∧ t.enabled = true ∧
    ((atTransform evs rules m).evaluate (.text t.expression) m.payload).reply = .answered o ∧
    o.success = true ∧ res.transformed = o.output
  /-- If none was applied there is nothing. -/
  not_applied : res.transformApplied = false → res.transformed = .null

namespace Routing

variable {evs evs' : Course} {rules rules' : List Rule} {m : Message}

section

/-- The order of the candidates does not depend on transforms. -/
theorem candidates_map_bare (rules : List Rule) :
    (candidates rules).map Rule.bare = candidates (rules.map Rule.bare) := by
  have hsort := List.map_mergeSort (f := Rule.bare) (r := fun a b => b.priority ≤ a.priority)
    (s := fun a b => b.priority ≤ a.priority) (l := rules.filter (·.enabled))
    fun _ _ _ _ => rfl
  have hfilter : (rules.filter (·.enabled)).map Rule.bare =
      (rules.map Rule.bare).filter (·.enabled) := by
    rw [List.filter_map]
    rfl
  rw [candidates, hsort, hfilter, candidates]

theorem routeStep_map_bare (n : Nat) (payload : Value) (r : Option Rule) :
    routeStep n payload ((r.map Rule.bare).map routeOf) = routeStep n payload (r.map routeOf) := by
  cases r <;> rfl

variable [Interpreter]

/-! ## Conditions -/

/-- The finding of a condition follows from the reply to its expression. -/
theorem finding_evaluate_congr {ev ev' : Evaluator} {c : Condition}
    (h : ∀ e, c = .expression e →
      (ev.evaluate (.text e) m.payload).reply = (ev'.evaluate (.text e) m.payload).reply) :
    (c.evaluate ev m).finding = (c.evaluate ev' m).finding := by
  cases c with
  | field space path operator operand => rfl
  | expression e =>
    by_cases he : e = ""
    · subst he
      rfl
    · rw [Condition.evaluate_expression ev m he, Condition.evaluate_expression ev' m he, h e rfl]
      cases Condition.ofReply e (ev'.evaluate (.text e) m.payload).reply <;> rfl

theorem findings_congr {cs : List Condition} (h : RepliesAlike evs evs' m.payload cs) :
    findings evs m cs = findings evs' m cs := by
  refine List.ext_getElem? fun i => ?_
  rw [getElem?_findings, getElem?_findings]
  refine Option.map_congr fun c hc => finding_evaluate_congr fun e he => ?_
  exact h i e (he ▸ List.mem_of_getElem? hc)

/-! ## Rules -/

/-- An examination without what was logged and counted on the way. -/
def quiet (e : Examination) : Examination := { e with log := [], measured := [] }

theorem entries_examine_congr {r : Rule} (h : RepliesAlike evs evs' m.payload r.conditions) :
    (examine evs m r).entries = (examine evs' m r).entries := by
  refine List.ext_getElem? fun i => ?_
  rw [getElem?_entries_examine, getElem?_entries_examine]
  refine Option.map_congr fun c hc => ?_
  rw [finding_evaluate_congr fun e he => h i e (he ▸ List.mem_of_getElem? hc)]

/-- The examination of a rule follows from the replies to the expressions of its conditions. -/
theorem quiet_examine_congr {r r' : Rule} (hr : r.bare = r'.bare)
    (h : RepliesAlike evs evs' m.payload r.conditions) :
    quiet (examine evs m r) = quiet (examine evs' m r') := by
  have hsame : examine evs' m r = examine evs' m r' := by
    change examine evs' m r.bare = examine evs' m r'.bare
    rw [hr]
  rw [← hsame, quiet, quiet, matched_examine, matched_examine, issues_examine, issues_examine,
    findings_congr h, entries_examine_congr h]

/-! ## Searches -/

/-- A search without transforms and without what was logged and counted on the way. -/
def outline (s : List (Rule × Examination) × Option Rule) :
    List (Rule × Examination) × Option Rule :=
  (s.1.map (Prod.map Rule.bare quiet), s.2.map Rule.bare)

/-- **A search follows from the rules without their transforms** and from the replies to the
expressions of conditions. -/
theorem outline_search_congr (hrules : rules.map Rule.bare = rules'.map Rule.bare)
    (h : RepliesAlike evs evs' m.payload (rules.flatMap (·.conditions))) :
    outline (search evs m rules) = outline (search evs' m rules') := by
  induction rules generalizing rules' evs evs' with
  | nil =>
    obtain rfl : rules' = [] := List.map_eq_nil_iff.1 hrules.symm
    rfl
  | cons r rules ih =>
    obtain ⟨r', rules', rfl, hr, hrest⟩ := List.map_eq_cons_iff.1 hrules.symm
    have hconditions : r'.conditions = r.conditions := by
      change r'.bare.conditions = r.bare.conditions
      rw [hr]
    have hexamine : quiet (examine evs m r) = quiet (examine evs' m r') :=
      quiet_examine_congr hr.symm fun n e he => h n e (List.mem_append_left _ he)
    have hmatched : (examine evs m r).matched = (examine evs' m r').matched := by
      change (quiet (examine evs m r)).matched = (quiet (examine evs' m r')).matched
      rw [hexamine]
    have hsearch : outline (search (evs.after r.conditions.length) m rules) =
        outline (search (evs'.after r.conditions.length) m rules') :=
      ih hrest.symm fun n e he => h _ e (List.mem_append_right _ he)
    simp only [outline, Prod.mk.injEq] at hsearch
    simp only [search, hmatched, hconditions, outline]
    split
    · simp [hexamine, hr]
    · simp [hexamine, hr, hsearch]

theorem outline_search_candidates_congr (hrules : rules.map Rule.bare = rules'.map Rule.bare)
    (h : RepliesAlike evs evs' m.payload (rules.flatMap (·.conditions))) :
    outline (search evs m (candidates rules)) = outline (search evs' m (candidates rules')) := by
  refine outline_search_congr ?_ fun n e he => h n e ?_
  · rw [candidates_map_bare, hrules, ← candidates_map_bare]
  · obtain ⟨r, hr, hc⟩ := List.mem_flatMap.1 he
    exact List.mem_flatMap.2 ⟨r, (mem_candidates.1 hr).1, hc⟩

/-! ## What follows from a search -/

theorem map_bare_found (evs : Course) (rules : List Rule) (m : Message) :
    (found evs rules m).map Rule.bare = (outline (search evs m (candidates rules))).2 := rfl

theorem conditionSteps_eq_outline (evs : Course) (rules : List Rule) (m : Message) :
    conditionSteps evs rules m =
      (outline (search evs m (candidates rules))).1.mapIdx fun i x => ruleStep i x.1 x.2 := by
  rw [conditionSteps, search_eq, outline]
  refine List.ext_getElem? fun i => ?_
  rw [List.getElem?_mapIdx, List.getElem?_mapIdx, List.getElem?_map, Option.map_map]
  rfl

theorem warnings_eq_outline (evs : Course) (rules : List Rule) (m : Message) :
    (findings evs m ((examined evs rules m).flatMap (·.conditions))).filterMap (·.issue) =
      (outline (search evs m (candidates rules))).1.flatMap (·.2.issues) := by
  rw [← flatMap_issues_examinations, search_eq, outline, List.flatMap_map]
  rfl

/-- The part of a result that is about the routing. -/
theorem routes_routeAlong (evs : Course) (rules : List Rule) (m : Message) :
    (routeAlong evs rules m).result.Routes ((found evs rules m).map (·.name))
      ((found evs rules m).map (·.destination)) (conditionSteps evs rules m)
      (routeStep ((conditionSteps evs rules m).length + 1) m.payload
        ((found evs rules m).map routeOf))
      ((findings evs m ((examined evs rules m).flatMap (·.conditions))).filterMap (·.issue) ++
        if (found evs rules m).isSome then [] else [noMatch]) where
  ruleName_eq := ruleName_routeAlong evs rules m
  destination_eq := destination_routeAlong evs rules m
  trace_eq := by
    refine ⟨transformSteps evs rules m, trace_routeAlong evs rules m, ?_, fun s hs => ?_⟩
    · rw [transformSteps]
      cases tried evs rules m <;> simp
    · obtain ⟨a, -, rfl⟩ := (mem_transformSteps evs rules m).1 hs
      rfl
  kind_conditions s hs := by
    obtain ⟨i, hi⟩ := List.getElem?_of_mem hs
    rw [getElem?_conditionSteps, Option.map_eq_some_iff] at hi
    obtain ⟨r, -, rfl⟩ := hi
    rfl
  kind_route := by
    cases found evs rules m <;> rfl
  issues_eq := by
    refine ⟨_, issues_routeAlong evs rules m, ?_, fun i hi => ?_⟩
    · rw [List.length_map]
      cases (tried evs rules m).filter fun a => !a.outcome.success <;> simp
    · obtain ⟨a, -, rfl⟩ := List.mem_map.1 hi
      exact ⟨rfl, rfl⟩
  context_issues i hi := by
    rcases List.mem_append.1 hi with hi | hi
    · rw [(of_mem_issues_findings hi).2]
      decide
    · split at hi
      · cases hi
      · rw [List.mem_singleton.1 hi]
        decide

/-- The transform of a run is that of the selected rule. -/
theorem transforms_routeAlong (evs : Course) (rules : List Rule) (m : Message) :
    (routeAlong evs rules m).result.Transforms evs rules m where
  applied h := by
    rw [transformApplied_routeAlong, Option.any_eq_true] at h
    obtain ⟨a, ha, hsuccess⟩ := h
    obtain ⟨r, t, hr, ht, he, rfl⟩ := (tried_eq_some_iff evs rules m).1 ha
    obtain ⟨i, hi⟩ := selected_of_found hr
    obtain ⟨o, ho, hs⟩ := success_attempt.1 hsuccess
    refine ⟨i, r, t, o, hi, ?_, ht, he, ho, hs, ?_⟩
    · rw [ruleName_routeAlong, hr, Option.map_some]
    · rw [outcome_attempt_answered ho] at hsuccess
      simp [transformed_routeAlong, ha, Option.filter, outcome_attempt_answered ho, hs]
  not_applied h := by
    rw [transformApplied_routeAlong] at h
    rw [transformed_routeAlong]
    cases ha : tried evs rules m with
    | none => rfl
    | some a =>
      rw [ha, Option.any_some] at h
      simp [Option.filter, h]

end

end Routing

/-- **Transforms do not interfere with the routing.** For rules that differ in their transforms
only, and evaluators that reply alike to the expressions of conditions, results agree in their
routing; and each holds what the transform of the selected rule gave. -/
theorem transforms_noninterfering [Interpreter] {evs evs' : Course} {rules rules' : List Rule}
    {m : Message}
    (hrules : rules.map Rule.bare = rules'.map Rule.bare)
    (h : RepliesAlike evs evs' m.payload (rules.flatMap (·.conditions))) :
    (∃ ruleName destination conditions route issues,
      (routeAlong evs rules m).result.Routes ruleName destination conditions route issues ∧
      (routeAlong evs' rules' m).result.Routes ruleName destination conditions route issues) ∧
    (routeAlong evs rules m).result.Transforms evs rules m ∧
    (routeAlong evs' rules' m).result.Transforms evs' rules' m := by
  have houtline := outline_search_candidates_congr hrules h
  have hfound : (found evs rules m).map Rule.bare = (found evs' rules' m).map Rule.bare := by
    rw [map_bare_found, houtline, ← map_bare_found]
  have hname : (found evs' rules' m).map (·.name) = (found evs rules m).map (·.name) := by
    have := congrArg (Option.map (·.name)) hfound.symm
    rwa [Option.map_map, Option.map_map] at this
  have hdestination : (found evs' rules' m).map (·.destination) =
      (found evs rules m).map (·.destination) := by
    have := congrArg (Option.map (·.destination)) hfound.symm
    rwa [Option.map_map, Option.map_map] at this
  have hsome : (found evs' rules' m).isSome = (found evs rules m).isSome := by
    have := congrArg Option.isSome hfound.symm
    rwa [Option.isSome_map, Option.isSome_map] at this
  have hsteps : conditionSteps evs' rules' m = conditionSteps evs rules m := by
    rw [conditionSteps_eq_outline, ← houtline, ← conditionSteps_eq_outline]
  have hroutes := routes_routeAlong evs' rules' m
  rw [hname, hdestination, hsteps, hsome, warnings_eq_outline, ← houtline, ← warnings_eq_outline,
    ← routeStep_map_bare, ← hfound, routeStep_map_bare] at hroutes
  exact ⟨⟨_, _, _, _, _, routes_routeAlong evs rules m, hroutes⟩, transforms_routeAlong evs rules m,
    transforms_routeAlong evs' rules' m⟩

/-- A rule for messages that are paid. -/
def paid (expression : String) : Rule where
  name := "paid"
  description := none
  enabled := true
  priority := Rule.usualPriority
  conditions := [.expression ".paid"]
  combination := .all
  transform := some ⟨true, expression⟩
  destination := "shipping"

/-- An evaluator that finds every message to be paid, and replies to any other expression in one
way. -/
def findsPaid (reply : Reply Outcome) : Evaluator where
  evaluate
    | .text ".paid", _ => ⟨.answered (.ofOutput (.bool true)), []⟩
    | _, _ => ⟨reply, []⟩
  validate _ := ⟨.answered ⟨true, none, []⟩, []⟩

open scoped Interpreter.Usual

theorem transforms_noninterfering_paid :
    ∃ ruleName destination conditions route issues,
      (routeAlong (.constant (findsPaid (.answered (.ofOutput .null)))) [paid ".order"]
        Message.empty).result.Routes ruleName destination conditions route issues ∧
      (routeAlong (.constant (findsPaid (.raised (.raised "out of time")))) [paid ".address"]
        Message.empty).result.Routes ruleName destination conditions route issues := by
  have hreplies : RepliesAlike (.constant (findsPaid (.answered (.ofOutput .null))))
      (.constant (findsPaid (.raised (.raised "out of time")))) Message.empty.payload
      ([paid ".order"].flatMap (·.conditions)) := by
    intro n e he
    simp only [paid, List.flatMap_cons, List.flatMap_nil, List.append_nil, List.mem_singleton,
      Condition.expression.injEq] at he
    subst he
    rfl
  have hrules : [paid ".order"].map Rule.bare = [paid ".address"].map Rule.bare := rfl
  exact (transforms_noninterfering hrules hreplies).1

end MessageRouting
