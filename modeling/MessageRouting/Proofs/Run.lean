import MessageRouting.Proofs.Search

/-!
# What a run reports

A run examines some of its candidates (`examined`), finds a rule or not (`found`), and tries the
transform of that rule if it has an enabled one (`tried`). `run_cases` ties the first two to the
order of the candidates; every part of the result is then read off from the three. There is a result
exactly if the payload can be copied (`runAlong_eq_ok_iff`).
-/

namespace MessageRouting.Routing

open Expression

/-- The transform that a route asks for, tried. -/
def attempted (ev : Evaluator) (m : Message) (route : Option Route) : Option Attempt :=
  (route.bind (·.expression)).map fun e => attempt ev e m.payload

/-! ## The course of a run -/

section Course

variable [Interpreter]

/-- The rules that a run examines, in their order. -/
def examined (evs : Course) (rules : List Rule) (m : Message) : List Rule :=
  (search evs m (candidates rules)).1.map (·.1)

/-- The rule that a run finds. -/
def found (evs : Course) (rules : List Rule) (m : Message) : Option Rule :=
  (search evs m (candidates rules)).2

/-- The evaluator at the moment at which a transform can be tried. -/
def atTransform (evs : Course) (rules : List Rule) (m : Message) : Evaluator :=
  evs (conditionCount (examined evs rules m))

/-- The transform that a run tries. -/
def tried (evs : Course) (rules : List Rule) (m : Message) : Option Attempt :=
  attempted (atTransform evs rules m) m ((found evs rules m).map routeOf)

/-- The course of the evaluator from the moment on at which a candidate is examined. -/
def atCandidate (evs : Course) (rules : List Rule) (i : Nat) : Course :=
  evs.after (conditionCount ((candidates rules).take i))

variable (evs : Course) (rules : List Rule) (m : Message)

/-- **The course of a run.** Either no candidate matches and all are examined, or the examination
stops at the first one that matches. -/
theorem run_cases :
    (examined evs rules m = candidates rules ∧ found evs rules m = none ∧
      ∀ i r, (candidates rules)[i]? = some r →
        (examine (atCandidate evs rules i) m r).matched = false) ∨
    ∃ before r after, candidates rules = before ++ r :: after ∧
      examined evs rules m = before ++ [r] ∧ found evs rules m = some r ∧
      (∀ i s, before[i]? = some s → (examine (atCandidate evs rules i) m s).matched = false) ∧
      (examine (atCandidate evs rules before.length) m r).matched = true := by
  rcases search_cases evs m (candidates rules) with
    ⟨hs, hall⟩ | ⟨before, r, after, hsplit, hs, hall, hm⟩
  · refine .inl ⟨by rw [examined, hs, map_fst_examinations], by rw [found, hs], fun i r hr => ?_⟩
    refine hall (r, _) (List.mem_of_getElem? (i := i) ?_)
    rw [getElem?_examinations, hr]
    rfl
  · refine .inr ⟨before, r, after, hsplit, by rw [examined, hs, map_fst_examinations],
      by rw [found, hs], fun i s hi => ?_, ?_⟩
    · have hlt : i < before.length := (List.getElem?_eq_some_iff.1 hi).1
      rw [atCandidate, hsplit, List.take_append_of_le_length (Nat.le_of_lt hlt)]
      refine hall (s, _) (List.mem_of_getElem? (i := i) ?_)
      rw [getElem?_examinations, hi]
      rfl
    · rwa [atCandidate, hsplit, List.take_left]

theorem search_eq :
    search evs m (candidates rules) =
      (examinations evs m (examined evs rules m), found evs rules m) := by
  rcases search_cases evs m (candidates rules) with ⟨hs, -⟩ | ⟨before, r, after, -, hs, -, -⟩ <;>
    rw [examined, found, hs, map_fst_examinations]

/-- A run is the conclusion from the rules that it examined and the rule that it found. -/
theorem routeAlong_eq :
    routeAlong evs rules m = conclude (atTransform evs rules m)
      (searched rules.length (examinations evs m (examined evs rules m))) m
      ((found evs rules m).map routeOf) := by
  rw [routeAlong, search_eq]
  simp only [map_fst_examinations, atTransform]

/-- The rules that are examined come first among the candidates. -/
theorem examined_prefix : ∃ rest, candidates rules = examined evs rules m ++ rest := by
  rcases run_cases evs rules m with ⟨he, -⟩ | ⟨before, r, after, hsplit, he, -⟩
  · exact ⟨[], by rw [he, List.append_nil]⟩
  · exact ⟨after, by rw [he, hsplit, List.append_assoc]; rfl⟩

theorem take_length_examined :
    (candidates rules).take (examined evs rules m).length = examined evs rules m := by
  obtain ⟨rest, hrest⟩ := examined_prefix evs rules m
  rw [hrest, List.take_left]

theorem getElem?_candidates_of_examined {i : Nat} {r : Rule}
    (h : (examined evs rules m)[i]? = some r) : (candidates rules)[i]? = some r := by
  obtain ⟨rest, hrest⟩ := examined_prefix evs rules m
  rw [hrest, List.getElem?_append_left (List.getElem?_eq_some_iff.1 h).1, h]

/-! ## The copy of the payload -/

/-- How a run is broken off whose payload cannot be copied. -/
def uncopied (evs : Course) (rules : List Rule) (m : Message) : Halt :=
  let s := searched rules.length (examinations evs m (examined evs rules m))
  ⟨Interpreter.copying.fault, s.log, s.measured⟩

/-- A run with a payload that can be copied is what its course says. -/
theorem runAlong_of_height_le (h : m.payload.height ≤ Interpreter.copying.depth) :
    runAlong evs rules m = .ok (routeAlong evs rules m) := by
  rw [runAlong, copyPayload, Recursion.enter_of_le h]
  rfl

/-- A run with a payload that nests too deep is broken off. -/
theorem runAlong_of_lt_height (h : Interpreter.copying.depth < m.payload.height) :
    runAlong evs rules m = .error (uncopied evs rules m) := by
  rw [runAlong, copyPayload, Recursion.enter_of_lt h, search_eq]
  rfl

/-- **A run has a result exactly if its payload can be copied**, and its course says which. -/
theorem runAlong_eq_ok_iff {run : Run} : runAlong evs rules m = .ok run ↔
    m.payload.height ≤ Interpreter.copying.depth ∧ run = routeAlong evs rules m := by
  rcases Nat.lt_or_ge Interpreter.copying.depth m.payload.height with hlt | hle
  · rw [runAlong_of_lt_height evs rules m hlt]
    exact ⟨nofun, fun h => absurd h.1 (Nat.not_le.2 hlt)⟩
  · rw [runAlong_of_height_le evs rules m hle, Except.ok.injEq, and_iff_right hle,
      eq_comm (a := run)]

end Course

/-! ## The parts of the result -/

section Conclude

variable (ev : Evaluator) (s : Searched) (m : Message) (route : Option Route)

theorem ruleName_conclude : (conclude ev s m route).result.ruleName = route.bind (·.ruleName) := by
  rcases route with _ | ⟨name, destination, _ | e⟩ <;> rfl

theorem destination_conclude :
    (conclude ev s m route).result.destination = route.bind (·.destination) := by
  rcases route with _ | ⟨name, destination, _ | e⟩ <;> rfl

theorem trace_conclude :
    (conclude ev s m route).result.trace =
      s.steps ++ routeStep (s.steps.length + 1) m.payload route ::
        ((attempted ev m route).map fun a => transformStep (s.steps.length + 2)
          (route.bind (·.ruleName)) m.payload a.outcome).toList := by
  rcases route with _ | ⟨name, destination, _ | e⟩ <;> rfl

theorem issues_conclude :
    (conclude ev s m route).result.issues =
      s.issues ++ (if route.isSome then [] else [noMatch]) ++
        ((attempted ev m route).filter fun a => !a.outcome.success).toList.map
          fun a => transformIssue a.outcome := by
  rcases route with _ | ⟨name, destination, _ | e⟩
  · simp [conclude, finish, attempted]
  · simp [conclude, finish, attempted]
  · cases h : (attempt ev e m.payload).outcome.success <;>
      simp [conclude, finishTransformed, attempted, Option.filter, h]

theorem transformApplied_conclude :
    (conclude ev s m route).result.transformApplied =
      (attempted ev m route).any fun a => a.outcome.success := by
  rcases route with _ | ⟨name, destination, _ | e⟩ <;> rfl

theorem transformed_conclude :
    (conclude ev s m route).result.transformed =
      (((attempted ev m route).filter fun a => a.outcome.success).map
        fun a => a.outcome.output).getD .null := by
  rcases route with _ | ⟨name, destination, _ | e⟩
  · rfl
  · rfl
  · cases h : (attempt ev e m.payload).outcome.success <;>
      simp [conclude, finishTransformed, attempted, Option.filter, h]

end Conclude

section Result

variable [Interpreter] (evs : Course) (rules : List Rule) (m : Message)

theorem ruleName_routeAlong :
    (routeAlong evs rules m).result.ruleName = (found evs rules m).map (·.name) := by
  rw [routeAlong_eq, ruleName_conclude]
  cases found evs rules m <;> rfl

theorem destination_routeAlong :
    (routeAlong evs rules m).result.destination = (found evs rules m).map (·.destination) := by
  rw [routeAlong_eq, destination_conclude]
  cases found evs rules m <;> rfl

theorem issues_routeAlong :
    (routeAlong evs rules m).result.issues =
      (findings evs m ((examined evs rules m).flatMap (·.conditions))).filterMap (·.issue) ++
        (if (found evs rules m).isSome then [] else [noMatch]) ++
        ((tried evs rules m).filter fun a => !a.outcome.success).toList.map
          fun a => transformIssue a.outcome := by
  rw [routeAlong_eq, issues_conclude, Option.isSome_map, ← flatMap_issues_examinations]
  rfl

theorem transformApplied_routeAlong :
    (routeAlong evs rules m).result.transformApplied =
      (tried evs rules m).any fun a => a.outcome.success := by
  rw [routeAlong_eq, transformApplied_conclude, tried]

theorem transformed_routeAlong :
    (routeAlong evs rules m).result.transformed =
      (((tried evs rules m).filter fun a => a.outcome.success).map
        fun a => a.outcome.output).getD .null := by
  rw [routeAlong_eq, transformed_conclude, tried]

/-! ## The transform -/

/-- A transform is tried exactly if the rule that was found has an enabled one. -/
theorem tried_eq_some_iff {a : Attempt} :
    tried evs rules m = some a ↔ ∃ r t, found evs rules m = some r ∧ r.transform = some t ∧
      t.enabled = true ∧ attempt (atTransform evs rules m) (.text t.expression) m.payload = a := by
  rw [tried, attempted]
  rcases found evs rules m with _ | r
  · simp
  · rcases ht : r.transform with _ | t
    · simp [routeOf, enabledExpression, ht]
    · cases he : t.enabled <;> simp [routeOf, enabledExpression, ht, he]

end Result

/-- A transform gives what the evaluator answers. -/
theorem outcome_attempt_answered {ev : Evaluator} {e payload : Value} {o : Outcome}
    (h : (ev.evaluate e payload).reply = .answered o) : (attempt ev e payload).outcome = o := by
  simp only [attempt, attemptOf, h]

/-- A transform fails if the evaluator raises. -/
theorem outcome_attempt_raised {ev : Evaluator} {e payload : Value} {f : Fault}
    (h : (ev.evaluate e payload).reply = .raised f) :
    (attempt ev e payload).outcome = .failed (some f.report) [] := by
  simp only [attempt, attemptOf, h]

/-- A transform has succeeded if the evaluator answered so. -/
theorem success_attempt {ev : Evaluator} {e payload : Value} :
    (attempt ev e payload).outcome.success = true ↔
      ∃ o, (ev.evaluate e payload).reply = .answered o ∧ o.success = true := by
  cases h : (ev.evaluate e payload).reply with
  | answered o => simp [outcome_attempt_answered h]
  | raised f => simp [outcome_attempt_raised h, Outcome.failed]

end MessageRouting.Routing
