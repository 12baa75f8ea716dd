import MessageRouting.Proofs.Run

/-!
# The trace of a run

A trace is a complete record of how a run came to its decision: `Step.Records` says what the step of
an examined rule holds, and `Faithful` how the steps of a run go together. `trace_faithful` is the
main statement: the trace of every run is faithful.
-/

namespace MessageRouting

open Expression Routing

variable [Interpreter]

/-- A step that records the examination of a rule. -/
structure Step.Records (evs : Course) (m : Message) (r : Rule) (s : Step) : Prop where
  /-- It is a condition step. -/
  kind_eq : s.kind = .condition
  /-- It names the rule. -/
  ruleName_eq : s.ruleName = some r.name
  /-- Its output is its success. -/
  output_eq : s.output = .bool s.success
  /-- It has one entry for each condition. -/
  length_entries : s.entries.length = r.conditions.length
  /-- Each entry tells what became of the condition at its index. -/
  entry_eq : ∀ (i : Nat) (c : Condition), r.conditions[i]? = some c →
    ∃ e : ConditionEntry, s.entries[i]? = some e ∧ e.index = i ∧ e.tag = c.tag ∧
    e.matched = (c.evaluate (evs i) m).finding.matched ∧
    e.issue = (c.evaluate (evs i) m).finding.issue.map (·.message)
  /-- Its success is the combination of the entries. -/
  success_iff : s.success = true ↔ s.entries = [] ∨ match r.combination with
    | .all => ∀ e ∈ s.entries, e.matched = true
    | .any => ∃ e ∈ s.entries, e.matched = true

/-- A trace that records how a run came to its result: condition steps, the step of the route and
the step of a transform. -/
structure Faithful (evs : Course) (rules : List Rule) (m : Message) (res : RunResult)
    (found : Option Rule) (steps : List Step) (route : Step) (transforms : List Step) : Prop where
  /-- The trace consists of these steps, in this order. -/
  trace_eq : res.trace = steps ++ route :: transforms
  /-- They are numbered from 1. -/
  number_eq : ∀ (i : Nat) (s : Step), res.trace[i]? = some s → s.number = i + 1
  /-- The condition steps record the first candidates, one after the other. -/
  records : ∀ (i : Nat) (s : Step), steps[i]? = some s →
    ∃ r, (candidates rules)[i]? = some r ∧ s.Records (atCandidate evs rules i) m r
  /-- None but the last has succeeded. -/
  success_eq_false : ∀ (i : Nat) (s : Step), steps[i]? = some s → i + 1 < steps.length →
    s.success = false
  /-- If a rule was found, the last one has succeeded and belongs to it. -/
  found_some : ∀ r, found = some r → ∃ (i : Nat) (s : Step), steps.length = i + 1 ∧
    (candidates rules)[i]? = some r ∧ steps[i]? = some s ∧ s.success = true
  /-- If no rule was found, all candidates were examined and none has succeeded. -/
  found_none : found = none →
    steps.length = (candidates rules).length ∧ ∀ s ∈ steps, s.success = false
  /-- The result names the rule that was found. -/
  ruleName_eq : res.ruleName = found.map (·.name)
  /-- The result gives the destination of the rule that was found. -/
  destination_eq : res.destination = found.map (·.destination)
  /-- The step of the route says whether a rule was found, which one, and its destination. -/
  route_eq : route.kind = .route ∧ route.success = found.isSome ∧
    route.ruleName = res.ruleName ∧ route.output = Value.textOrNull res.destination ∧
    route.input = m.payload ∧ route.entries = []
  /-- There is at most one transform. -/
  length_transforms : transforms.length ≤ 1
  /-- There is one exactly if the rule that was found has an enabled one. -/
  transforms_ne_nil : transforms ≠ [] ↔
    ∃ r t, found = some r ∧ r.transform = some t ∧ t.enabled = true
  /-- The step of a transform names the rule, and says whether it succeeded and what it gave. -/
  transform_eq : ∀ s ∈ transforms, s.kind = .transform ∧ s.ruleName = res.ruleName ∧
    s.input = m.payload ∧ s.entries = [] ∧ s.success = res.transformApplied ∧
    (s.success = true → s.output = res.transformed)
  /-- It tells what the evaluator replied. -/
  transform_reply : ∀ s ∈ transforms, ∀ r t, found = some r → r.transform = some t →
    let ev := evs (conditionCount ((candidates rules).take steps.length))
    match (ev.evaluate (.text t.expression) m.payload).reply with
    | .answered o => s.success = o.success ∧ s.output = o.output ∧ s.error = o.error
    | .raised f => s.success = false ∧ s.output = .null ∧ s.error = some f.report

namespace Routing

/-! ## Condition steps -/

theorem success_ruleStep_iff (evs : Course) (m : Message) (i : Nat) (r : Rule) :
    (ruleStep i r (examine evs m r)).success = true ↔
      (examine evs m r).entries = [] ∨ match r.combination with
        | .all => ∀ e ∈ (examine evs m r).entries, e.matched = true
        | .any => ∃ e ∈ (examine evs m r).entries, e.matched = true := by
  have h : (findings evs m r.conditions).map (·.matched) =
      (examine evs m r).entries.map (·.matched) := by
    refine List.ext_getElem? fun j => ?_
    rw [List.getElem?_map, List.getElem?_map, getElem?_findings, getElem?_entries_examine,
      Option.map_map, Option.map_map]
    rfl
  change (examine evs m r).matched = true ↔ _
  rw [matched_examine, h, holds_iff, List.map_eq_nil_iff]
  cases r.combination <;> simp

/-- The step of an examined rule records its examination. -/
theorem records_ruleStep (evs : Course) (m : Message) (i : Nat) (r : Rule) :
    (ruleStep i r (examine evs m r)).Records evs m r where
  kind_eq := rfl
  ruleName_eq := rfl
  output_eq := rfl
  length_entries := length_entries_examine evs m r
  entry_eq j c hc := by
    refine ⟨entry j c (c.evaluate (evs j) m).finding, ?_, rfl, rfl, rfl, rfl⟩
    change (examine evs m r).entries[j]? = _
    rw [getElem?_entries_examine, hc]
    rfl
  success_iff := success_ruleStep_iff evs m i r

variable (evs : Course) (rules : List Rule) (m : Message)

/-- The condition steps of a run. -/
def conditionSteps : List Step :=
  (examinations evs m (examined evs rules m)).mapIdx fun i x => ruleStep i x.1 x.2

theorem getElem?_conditionSteps (i : Nat) :
    (conditionSteps evs rules m)[i]? = (examined evs rules m)[i]?.map fun r =>
      ruleStep i r (examine (atCandidate evs rules i) m r) := by
  rw [conditionSteps, List.getElem?_mapIdx, getElem?_examinations]
  rcases h : (examined evs rules m)[i]? with _ | r
  · rw [Option.map_none, Option.map_none, Option.map_none]
  · obtain ⟨rest, hrest⟩ := examined_prefix evs rules m
    have hlt : i < (examined evs rules m).length := (List.getElem?_eq_some_iff.1 h).1
    rw [Option.map_some, Option.map_some, Option.map_some, atCandidate, hrest,
      List.take_append_of_le_length (Nat.le_of_lt hlt)]

theorem length_conditionSteps :
    (conditionSteps evs rules m).length = (examined evs rules m).length := by
  rw [conditionSteps, List.length_mapIdx, ← List.length_map (·.1), map_fst_examinations]

/-- The condition steps have all failed, or all but the last, which belongs to the rule that was
found. -/
theorem conditionSteps_cases :
    (found evs rules m = none ∧
      (conditionSteps evs rules m).length = (candidates rules).length ∧
      ∀ s ∈ conditionSteps evs rules m, s.success = false) ∨
    ∃ r i s, found evs rules m = some r ∧ (conditionSteps evs rules m).length = i + 1 ∧
      (candidates rules)[i]? = some r ∧ (conditionSteps evs rules m)[i]? = some s ∧
      s.success = true ∧
      ∀ j s, (conditionSteps evs rules m)[j]? = some s → j < i → s.success = false := by
  rcases run_cases evs rules m with
    ⟨he, hf, hall⟩ | ⟨before, r, after, hsplit, he, hf, hall, hm⟩
  · refine .inl ⟨hf, by rw [length_conditionSteps, he], fun s hs => ?_⟩
    obtain ⟨i, hi⟩ := List.getElem?_of_mem hs
    rw [getElem?_conditionSteps, he, Option.map_eq_some_iff] at hi
    obtain ⟨r, hr, rfl⟩ := hi
    exact hall i r hr
  · refine .inr ⟨r, before.length,
      ruleStep before.length r (examine (atCandidate evs rules before.length) m r), hf, ?_, ?_, ?_,
      hm, fun j s hs hj => ?_⟩
    · rw [length_conditionSteps, he, List.length_append, List.length_singleton]
    · rw [hsplit, List.getElem?_append_right (Nat.le_refl _), Nat.sub_self]
      rfl
    · rw [getElem?_conditionSteps, he, List.getElem?_append_right (Nat.le_refl _), Nat.sub_self]
      rfl
    · rw [getElem?_conditionSteps, he, List.getElem?_append_left hj, Option.map_eq_some_iff] at hs
      obtain ⟨t, ht, rfl⟩ := hs
      exact hall j t ht

/-! ## The transform -/

/-- The steps of a transform: one if it was tried. -/
def transformSteps : List Step :=
  ((tried evs rules m).map fun a => transformStep ((conditionSteps evs rules m).length + 2)
    ((found evs rules m).map (·.name)) m.payload a.outcome).toList

theorem mem_transformSteps {s : Step} :
    s ∈ transformSteps evs rules m ↔ ∃ a, tried evs rules m = some a ∧
      transformStep ((conditionSteps evs rules m).length + 2)
        ((found evs rules m).map (·.name)) m.payload a.outcome = s := by
  rw [transformSteps, Option.mem_toList, Option.map_eq_some_iff]

theorem transformSteps_ne_nil_iff :
    transformSteps evs rules m ≠ [] ↔
      ∃ r t, found evs rules m = some r ∧ r.transform = some t ∧ t.enabled = true := by
  constructor
  · intro h
    obtain ⟨s, hs⟩ := List.exists_mem_of_ne_nil _ h
    obtain ⟨a, ha, -⟩ := (mem_transformSteps evs rules m).1 hs
    obtain ⟨r, t, hr, ht, he, -⟩ := (tried_eq_some_iff evs rules m).1 ha
    exact ⟨r, t, hr, ht, he⟩
  · rintro ⟨r, t, hr, ht, he⟩
    have ha := (tried_eq_some_iff evs rules m).2 ⟨r, t, hr, ht, he, rfl⟩
    exact List.ne_nil_of_mem ((mem_transformSteps evs rules m).2 ⟨_, ha, rfl⟩)

/-- The step of a transform agrees with the result. -/
theorem transformStep_result {a : Attempt} (n : Nat) (name : Option String)
    (h : tried evs rules m = some a) :
    (transformStep n name m.payload a.outcome).success =
        (routeAlong evs rules m).result.transformApplied ∧
      ((transformStep n name m.payload a.outcome).success = true →
        (transformStep n name m.payload a.outcome).output =
          (routeAlong evs rules m).result.transformed) := by
  rw [transformApplied_routeAlong, transformed_routeAlong, h]
  refine ⟨rfl, fun hs => ?_⟩
  change a.outcome.success = true at hs
  simp [transformStep, Option.filter, hs]

/-- The step of a transform agrees with what the evaluator replied. -/
theorem transformStep_reply {a : Attempt} {r : Rule} {t : Transform} (n : Nat)
    (name : Option String) (h : tried evs rules m = some a) (hr : found evs rules m = some r)
    (ht : r.transform = some t) :
    match ((atTransform evs rules m).evaluate (.text t.expression) m.payload).reply with
    | .answered o =>
      let s := transformStep n name m.payload a.outcome
      s.success = o.success ∧ s.output = o.output ∧ s.error = o.error
    | .raised f =>
      let s := transformStep n name m.payload a.outcome
      s.success = false ∧ s.output = .null ∧ s.error = some f.report := by
  obtain ⟨r', t', hr', ht', -, rfl⟩ := (tried_eq_some_iff evs rules m).1 h
  obtain rfl : r = r' := Option.some.inj (hr.symm.trans hr')
  obtain rfl : t = t' := Option.some.inj (ht.symm.trans ht')
  cases h : ((atTransform evs rules m).evaluate (.text t.expression) m.payload).reply with
  | answered o => simp [outcome_attempt_answered h, transformStep]
  | raised f => simp [outcome_attempt_raised h, transformStep, Outcome.failed]

/-! ## The whole trace -/

/-- The trace of a run. -/
theorem trace_routeAlong :
    (routeAlong evs rules m).result.trace =
      conditionSteps evs rules m ++
        routeStep ((conditionSteps evs rules m).length + 1) m.payload
          ((found evs rules m).map routeOf) :: transformSteps evs rules m := by
  have hname : ((found evs rules m).map routeOf).bind (·.ruleName) =
      (found evs rules m).map (·.name) := by
    cases found evs rules m <;> rfl
  rw [routeAlong_eq, trace_conclude, hname, searched, transformSteps, tried, conditionSteps]

theorem number_trace_routeAlong (i : Nat) (s : Step)
    (h : (routeAlong evs rules m).result.trace[i]? = some s) : s.number = i + 1 := by
  rw [trace_routeAlong] at h
  rcases Nat.lt_or_ge i (conditionSteps evs rules m).length with hi | hi
  · rw [List.getElem?_append_left hi, getElem?_conditionSteps, Option.map_eq_some_iff] at h
    obtain ⟨r, -, rfl⟩ := h
    exact Int.natCast_succ i
  · obtain ⟨k, rfl⟩ := Nat.exists_eq_add_of_le hi
    rw [List.getElem?_append_right hi, Nat.add_sub_cancel_left] at h
    rcases k with _ | k
    · obtain rfl : _ = s := Option.some.inj h
      cases found evs rules m <;> simp [routeStep]
    · rw [List.getElem?_cons_succ] at h
      rcases ht : tried evs rules m with _ | a
      · simp [transformSteps, ht] at h
      · rcases k with _ | k
        · simp only [transformSteps, ht, Option.map_some, Option.toList_some,
            List.getElem?_cons_zero, Option.some.injEq] at h
          subst h
          simp only [transformStep]
          omega
        · simp [transformSteps, ht] at h

end Routing

/-- **The trace of a run is a faithful record of its decision.** -/
theorem trace_faithful (evs : Course) (rules : List Rule) (m : Message) :
    ∃ found steps route transforms,
      Faithful evs rules m (routeAlong evs rules m).result found steps route transforms := by
  refine ⟨found evs rules m, conditionSteps evs rules m,
    routeStep ((conditionSteps evs rules m).length + 1) m.payload
      ((found evs rules m).map routeOf), transformSteps evs rules m, ?_⟩
  exact {
    trace_eq := trace_routeAlong evs rules m
    number_eq := number_trace_routeAlong evs rules m
    records := fun i s hs => by
      rw [getElem?_conditionSteps, Option.map_eq_some_iff] at hs
      obtain ⟨r, hr, rfl⟩ := hs
      exact ⟨r, getElem?_candidates_of_examined evs rules m hr, records_ruleStep ..⟩
    success_eq_false := fun i s hs hi => by
      rcases conditionSteps_cases evs rules m with ⟨-, -, hall⟩ | ⟨r, n, t, -, hn, -, -, -, hall⟩
      · exact hall s (List.mem_of_getElem? hs)
      · exact hall i s hs (by omega)
    found_some := fun r hr => by
      rcases conditionSteps_cases evs rules m with ⟨hf, -⟩ | ⟨s, n, t, hf, hn, hget, ht, hs, -⟩
      · simp [hr] at hf
      · obtain rfl : r = s := Option.some.inj (hr.symm.trans hf)
        exact ⟨n, t, hn, hget, ht, hs⟩
    found_none := fun hnone => by
      rcases conditionSteps_cases evs rules m with ⟨-, hn, hall⟩ | ⟨r, n, t, hf, -⟩
      · exact ⟨hn, hall⟩
      · simp [hnone] at hf
    ruleName_eq := ruleName_routeAlong evs rules m
    destination_eq := destination_routeAlong evs rules m
    route_eq := by
      rw [ruleName_routeAlong, destination_routeAlong]
      cases found evs rules m <;> simp [routeStep, routeOf, Value.textOrNull]
    length_transforms := by
      rw [transformSteps]
      cases tried evs rules m <;> simp
    transforms_ne_nil := transformSteps_ne_nil_iff evs rules m
    transform_eq := fun s hs => by
      obtain ⟨a, ha, rfl⟩ := (mem_transformSteps evs rules m).1 hs
      exact ⟨rfl, (ruleName_routeAlong evs rules m).symm, rfl, rfl,
        transformStep_result evs rules m _ _ ha⟩
    transform_reply := fun s hs r t hr ht => by
      obtain ⟨a, ha, rfl⟩ := (mem_transformSteps evs rules m).1 hs
      rw [length_conditionSteps, take_length_examined]
      exact transformStep_reply evs rules m _ _ ha hr ht }

end MessageRouting
