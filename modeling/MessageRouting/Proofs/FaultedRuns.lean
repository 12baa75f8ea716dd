import MessageRouting.Proofs.DraftFindings

/-!
# Runs that a fault ends

A fault that ends the ordering, the examination or the recording of the candidates of a run over
drafts (`Faulted`) does not keep the run from its result, if the payload can be copied. The result
names no rule and has no transform; its trace records the candidates that were passed before
(`Step.RecordsDraft`) and ends with the route that was not found; and the error about the fault
stands between the warnings of the conditions and the warning that nothing matched
(`runAlong_faulted`). A fault that the evaluation of a condition turns into a warning ends nothing
(`runOnce_tolerant`).
-/

namespace MessageRouting

open Expression Routing

/-! ## What is recorded of a draft -/

/-- A warning of a condition. -/
def Issue.IsConditionWarning (i : Issue) : Prop :=
  i.severity = .warning ∧ i.context = some Finding.place

namespace DraftCourse

theorem after_zero (evs : DraftCourse) : evs.after 0 = evs :=
  funext fun n => congrArg evs (Nat.zero_add n)

theorem after_after (evs : DraftCourse) (a b : Nat) : (evs.after a).after b = evs.after (a + b) :=
  funext fun n => congrArg evs (Nat.add_assoc a b n).symm

end DraftCourse

namespace Draft

variable [Interpreter]

/-- An entry that tells what became of the condition at an index. -/
structure Tells (ev : DraftEvaluator) (m : Message) (i : Nat) (c : DraftCondition)
    (e : ConditionEntry) : Prop where
  /-- It has the index. -/
  index_eq : e.index = i
  /-- It has the tag as a text. -/
  tag_eq : tagText c = .ok e.tag
  /-- It has the path or expression. -/
  target_eq : ∃ a, target c = .ok a ∧ a.recorded "ConditionTrace" = .ok e.target
  /-- It has the operator as a text. -/
  operator_eq : ∃ o, c.operator = .ok o ∧ operatorText o = .ok e.operator
  /-- It has the finding. -/
  finding_eq : ∃ a, c.evaluate ev m = .ok a ∧ e.matched = a.finding.matched ∧
    e.issue = a.finding.issue.map (·.message)

/-- Entries that tell what became of conditions, one by one. -/
structure TellAll (evs : DraftCourse) (m : Message) (cs : List DraftCondition)
    (es : List ConditionEntry) : Prop where
  /-- There is one for each condition. -/
  length_eq : es.length = cs.length
  /-- Each tells what became of the condition in its place. -/
  tells : ∀ (i : Nat) (c : DraftCondition), cs[i]? = some c →
    ∃ e, es[i]? = some e ∧ Tells (evs i) m i c e

end Draft

open Draft

/-- A step that records the examination of a draft. -/
structure Step.RecordsDraft [Interpreter] (evs : DraftCourse) (m : Message) (r : DraftRule)
    (s : Step) : Prop where
  /-- It is a condition step. -/
  kind_eq : s.kind = .condition
  /-- It has the name of the rule. -/
  ruleName_eq : ∃ a, r.name = some a ∧ a.recorded "TraceStep" = .ok s.ruleName
  /-- It starts from nothing. -/
  input_eq : s.input = .null
  /-- Its output is its success. -/
  output_eq : s.output = .bool s.success
  /-- Nothing went wrong. -/
  error_eq : s.error = none
  /-- Its entries tell what became of the conditions. -/
  tellAll : ∃ cs, r.conditions.toList = (cs, none) ∧ TellAll evs m cs s.entries
  /-- Its success is the combination of the entries. -/
  success_eq : combined r.combination (s.entries.map (·.matched)) = .ok s.success

namespace Draft

/-! ## Examinations -/

variable [Interpreter] {evs : DraftCourse} {m : Message} {r : DraftRule}

/-- What the examination of a draft has recorded when some of its conditions are done. -/
structure Examined.Records (evs : DraftCourse) (m : Message) (done : List DraftCondition)
    (x : Examined) : Prop where
  /-- The entries tell what became of the conditions. -/
  tellAll : TellAll evs m done x.examination.entries
  /-- The results are those of the entries. -/
  results_eq : x.results = x.examination.entries.map (·.matched)
  /-- All issues are warnings of conditions. -/
  warning : ∀ i ∈ x.examination.issues, i.IsConditionWarning
  /-- They are those that the entries tell of. -/
  told : x.examination.issues.map (·.message) = x.examination.entries.filterMap (·.issue)

theorem tells_entry {ev : DraftEvaluator} {i : Nat} {c : DraftCondition} {tag : String}
    {a : Appraisal}
    {e : ConditionEntry} (ha : c.evaluate ev m = .ok a) (htag : tagText c = .ok tag)
    (he : entry i tag c a.finding = .ok e) : Tells ev m i c e := by
  simp only [entry, bind_eq_ok, pure_eq_ok] at he
  obtain ⟨operator, hoperator, shown, hshown, written, hwritten, target, htarget, rfl⟩ := he
  exact ⟨rfl, htag, ⟨shown, hshown, htarget⟩, ⟨operator, hoperator, hwritten⟩, a, ha, rfl, rfl⟩

theorem TellAll.append_tells {done : List DraftCondition} {es : List ConditionEntry}
    {c : DraftCondition} {e : ConditionEntry} (h : TellAll evs m done es)
    (he : Tells (evs done.length) m done.length c e) : TellAll evs m (done ++ [c]) (es ++ [e]) := by
  refine ⟨by rw [List.length_append, List.length_append, h.length_eq]; rfl, fun i d hd => ?_⟩
  rcases Nat.lt_or_ge i done.length with hi | hi
  · rw [List.getElem?_append_left hi] at hd
    obtain ⟨e', he', htells⟩ := h.tells i d hd
    exact ⟨e', by rw [List.getElem?_append_left (h.length_eq ▸ hi), he'], htells⟩
  · rw [List.getElem?_append_right hi, List.getElem?_singleton] at hd
    split at hd
    · obtain rfl : i = done.length := by omega
      obtain rfl := Option.some.inj hd
      exact ⟨e, by rw [← h.length_eq, List.getElem?_concat_length], he⟩
    · cases hd

/-- One more condition is recorded as the ones before it. -/
theorem records_examineCondition {done : List DraftCondition} {c : DraftCondition}
    {x y : Examined} (hx : x.Records evs m done)
    (h : examineCondition (evs done.length) m x c = .ok y) : y.Records evs m (done ++ [c]) := by
  simp only [examineCondition, bind_eq_ok, pure_eq_ok, mapError_eq_ok] at h
  obtain ⟨a, ha, tag, htag, e, he, rfl⟩ := h
  rw [hx.tellAll.length_eq] at he
  have htells := tells_entry ha htag he
  obtain ⟨b, hb, hmatched, hissue⟩ := htells.finding_eq
  obtain rfl : a = b := Except.ok.inj (ha.symm.trans hb)
  refine ⟨hx.tellAll.append_tells htells, ?_, fun i hi => ?_, ?_⟩
  · simp only [List.map_append, List.map_cons, List.map_nil, hx.results_eq, hmatched]
  · rcases List.mem_append.1 hi with hi | hi
    · exact hx.warning i hi
    · exact (DraftCondition.evaluate_eq_ok ha).1.issue (Option.mem_toList.1 hi)
  · rw [List.map_append, List.filterMap_append, hx.told]
    cases h : a.finding.issue <;> simp [hissue, h]

theorem records_examineAll {done cs : List DraftCondition} {x y : Examined}
    (hx : x.Records evs m done) (h : examineAll evs m x cs = .ok y) :
    y.Records evs m (done ++ cs) := by
  induction cs generalizing done x with
  | nil =>
    obtain rfl : x = y := Except.ok.inj h
    rwa [List.append_nil]
  | cons c cs ih =>
    have hlength : x.results.length = done.length := by
      rw [hx.results_eq, List.length_map, hx.tellAll.length_eq]
    simp only [examineAll, bind_eq_ok, hlength] at h
    obtain ⟨z, hz, h⟩ := h
    rw [← List.singleton_append, ← List.append_assoc]
    exact ih (records_examineCondition hx hz) h

/-- The examination of a draft tells what became of all its conditions. -/
theorem exists_records_of_examine {e : Examination} (h : examine evs m r = .ok e) :
    ∃ cs x matched, r.conditions.toList = (cs, none) ∧ Examined.Records evs m cs x ∧
      combined r.combination x.results = .ok matched ∧
      e = { x.examination with matched := matched } := by
  have hstart : Examined.Records evs m [] .start :=
    ⟨⟨rfl, fun _ _ h => nomatch h⟩, rfl, fun _ h => (nomatch h), rfl⟩
  simp only [examine, bind_eq_ok] at h
  obtain ⟨x, hx, h⟩ := h
  split at h
  · exact absurd h throw_ne_ok
  · rename_i hending
    simp only [bind_eq_ok, mapError_eq_ok, pure_eq_ok] at h
    obtain ⟨matched, hmatched, rfl⟩ := h
    exact ⟨_, x, matched, Prod.ext rfl hending, records_examineAll hstart hx, hmatched, rfl⟩

/-- The issues of an examination are warnings of conditions. -/
theorem warning_of_examine {e : Examination} (h : examine evs m r = .ok e) :
    ∀ i ∈ e.issues, i.IsConditionWarning := by
  obtain ⟨cs, x, matched, -, hx, -, rfl⟩ := exists_records_of_examine h
  exact hx.warning

theorem told_of_examine {e : Examination} (h : examine evs m r = .ok e) :
    e.issues.map (·.message) = e.entries.filterMap (·.issue) := by
  obtain ⟨cs, x, matched, -, hx, -, rfl⟩ := exists_records_of_examine h
  exact hx.told

theorem step_eq_ok {n : Nat} {e : Examination} {s : Step} (h : step n r e = .ok s) :
    ∃ a name summary, r.name = some a ∧ a.recorded "TraceStep" = .ok name ∧
      s = conditionStep n name summary e := by
  simp only [step, bind_eq_ok, pure_eq_ok] at h
  obtain ⟨a, ha, shown, -, combination, -, name, hname, rfl⟩ := h
  refine ⟨a, name, _, ?_, hname, rfl⟩
  cases h : r.name with
  | none => rw [h] at ha; cases ha
  | some b => rw [h] at ha; rw [Except.ok.inj ha]

/-- The step of a draft that was examined records its examination. -/
theorem recordsDraft_of_step {n : Nat} {e : Examination} {s : Step}
    (he : examine evs m r = .ok e) (hs : step n r e = .ok s) : s.RecordsDraft evs m r := by
  obtain ⟨a, name, summary, ha, hname, rfl⟩ := step_eq_ok hs
  obtain ⟨cs, x, matched, hcs, hx, hmatched, rfl⟩ := exists_records_of_examine he
  exact {
    kind_eq := rfl
    ruleName_eq := ⟨a, ha, hname⟩
    input_eq := rfl
    output_eq := rfl
    error_eq := rfl
    tellAll := ⟨cs, hcs, hx.tellAll⟩
    success_eq := by rw [hx.results_eq] at hmatched; exact hmatched }

/-! ## Searches -/

/-- A search that a fault ends, with the candidates that it has passed before. The number is that of
the next step. -/
inductive Halts (m : Message) :
    DraftCourse → Nat → List DraftRule → List DraftRule → Fault → Prop where
  /-- The next candidate cannot be examined. -/
  | examining {evs : DraftCourse} {n : Nat} {r : DraftRule} {rs : List DraftRule} {f : Fault}
      {e : Examination} (faulted : examine evs m r = .error (f, e)) : Halts m evs n (r :: rs) [] f
  /-- The next candidate cannot be recorded. -/
  | recording {evs : DraftCourse} {n : Nat} {r : DraftRule} {rs : List DraftRule} {f : Fault}
      {e : Examination} (examined : examine evs m r = .ok e) (faulted : step n r e = .error f) :
      Halts m evs n (r :: rs) [] f
  /-- The next candidate does not match, and a fault ends the search behind it. -/
  | passing {evs : DraftCourse} {n : Nat} {r : DraftRule} {rs passed : List DraftRule} {f : Fault}
      {e : Examination} {s : Step} (examined : examine evs m r = .ok e)
      (recorded : step n r e = .ok s) (unmatched : e.matched = false)
      (halts : Halts m (evs.after e.entries.length) (n + 1) rs passed f) :
      Halts m evs n (r :: rs) (r :: passed) f

/-- Steps that record the candidates passed by a search, one by one: none of them matches. The
number is that of the first step. -/
structure Passed (evs : DraftCourse) (m : Message) (n : Nat) (passed : List DraftRule)
    (steps : List Step) : Prop where
  /-- There is one for each candidate. -/
  length_eq : steps.length = passed.length
  /-- Each records the candidate in its place, with the evaluator as it is then. -/
  records : ∀ (i : Nat) (s : Step), steps[i]? = some s → s.number = n + i ∧ s.success = false ∧
    ∃ r, passed[i]? = some r ∧ s.RecordsDraft (evs.after (recordedCount (steps.take i))) m r

theorem passed_nil {n : Nat} : Passed evs m n [] [] := ⟨rfl, fun _ _ h => nomatch h⟩

theorem Passed.cons {n : Nat} {passed : List DraftRule} {s : Step} {steps : List Step}
    (hnumber : s.number = n) (hsuccess : s.success = false) (hs : s.RecordsDraft evs m r)
    (h : Passed (evs.after s.entries.length) m (n + 1) passed steps) :
    Passed evs m n (r :: passed) (s :: steps) := by
  refine ⟨congrArg Nat.succ h.length_eq, fun i t ht => ?_⟩
  cases i with
  | zero =>
    obtain rfl := Option.some.inj ht
    refine ⟨by rw [hnumber]; rfl, hsuccess, r, rfl, ?_⟩
    rwa [List.take_zero, show recordedCount [] = 0 from rfl, DraftCourse.after_zero]
  | succ i =>
    obtain ⟨hn, hfalse, q, hq, hrecords⟩ := h.records i t ht
    refine ⟨by rw [hn]; push_cast; omega, hfalse, q, hq, ?_⟩
    have hcount : recordedCount ((s :: steps).take (i + 1)) =
        s.entries.length + recordedCount (steps.take i) := by
      simp [recordedCount]
    rwa [hcount, ← DraftCourse.after_after]

/-- Warnings of conditions, first of all those that some steps tell of. -/
structure Warnings (steps : List Step) (warnings : List Issue) : Prop where
  /-- All are warnings of conditions. -/
  warning : ∀ i ∈ warnings, i.IsConditionWarning
  /-- Those that the entries of the steps tell of come first. -/
  told : (steps.flatMap (·.entries)).filterMap (·.issue) <+: warnings.map (·.message)

/-- A search that a fault ends has recorded the candidates that it has passed, and warnings of
conditions. -/
theorem search_of_halts {n : Nat} {cs passed : List DraftRule} {f : Fault}
    (h : Halts m evs n cs passed f) (s : Searched) (hn : n = s.steps.length + 1) :
    ∃ steps warnings, Passed evs m n passed steps ∧ Warnings steps warnings ∧
      (search evs m s cs).2 = .faulted f ∧ (search evs m s cs).1.steps = s.steps ++ steps ∧
      (search evs m s cs).1.issues = s.issues ++ warnings := by
  induction h generalizing s with
  | examining faulted =>
    refine ⟨[], [], passed_nil, ⟨fun _ h => (nomatch h), List.nil_prefix⟩, ?_⟩
    simp [search, faulted, Searched.observe]
  | recording examined faulted =>
    subst hn
    refine ⟨[], _, passed_nil, ⟨warning_of_examine examined, List.nil_prefix⟩, ?_⟩
    simp [search, examined, faulted, Searched.observe]
  | @passing evs n r rs passed f e st examined recorded unmatched halts ih =>
    subst hn
    have hrecords := recordsDraft_of_step examined recorded
    obtain ⟨a, name, summary, -, -, rfl⟩ := step_eq_ok recorded
    obtain ⟨steps, warnings, hpassed, hwarnings, hending, hsteps, hissues⟩ :=
      ih { Searched.observe { s with issues := s.issues ++ e.issues } e with
        steps := s.steps ++ [conditionStep (s.steps.length + 1) name summary e] }
        (by rw [List.length_append]; rfl)
    refine ⟨_ :: steps, e.issues ++ warnings, .cons rfl unmatched hrecords hpassed, ⟨?_, ?_⟩, ?_⟩
    · intro i hi
      rcases List.mem_append.1 hi with hi | hi
      · exact warning_of_examine examined i hi
      · exact hwarnings.warning i hi
    · rw [List.flatMap_cons, List.filterMap_append, List.map_append, told_of_examine examined]
      exact (List.prefix_append_right_inj _).2 hwarnings.told
    · simp only [Searched.observe] at hending hsteps hissues
      simp [search, examined, Searched.observe, recorded, unmatched, hending, hsteps, hissues]

/-! ## Runs -/

/-- A fault that keeps a run from finding a rule, with the candidates that it has passed before. -/
inductive Faulted (evs : DraftCourse) (rules : List DraftRule) (m : Message) :
    List DraftRule → Fault → Prop where
  /-- The candidates cannot be put in order. -/
  | ordering {f : Fault} (unordered : DraftRule.candidates rules = .error f) :
      Faulted evs rules m [] f
  /-- The search ends with the fault. -/
  | searching {f : Fault} {cs passed : List DraftRule}
      (ordered : DraftRule.candidates rules = .ok cs) (halts : Halts m evs 1 cs passed f) :
      Faulted evs rules m passed f

/-- The result of a run that a fault ends: one without a match. -/
structure FaultedResult (evs : DraftCourse) (m : Message) (passed : List DraftRule) (f : Fault)
    (res : RunResult) (steps : List Step) (warnings : List Issue) : Prop where
  /-- It names no rule. -/
  ruleName_eq : res.ruleName = none
  /-- It has no destination. -/
  destination_eq : res.destination = none
  /-- No transform was applied. -/
  transformApplied_eq : res.transformApplied = false
  /-- There is no transformed payload. -/
  transformed_eq : res.transformed = .null
  /-- The trace consists of these steps and of a route that was not found. -/
  trace_eq : res.trace = steps ++ [routeStep (steps.length + 1) m.payload none]
  /-- They are numbered from 1. -/
  number_eq : ∀ (i : Nat) (s : Step), res.trace[i]? = some s → s.number = i + 1
  /-- None of them has succeeded. -/
  success_eq_false : ∀ s ∈ res.trace, s.success = false
  /-- None of them is a transform. -/
  kind_ne : ∀ s ∈ res.trace, s.kind ≠ .transform
  /-- These steps record the candidates before the fault. -/
  passed : Passed evs m 1 passed steps
  /-- The issues are these warnings, the fault, and that nothing matched. -/
  issues_eq : res.issues = warnings ++ [faultIssue f, noMatch]
  /-- The warnings are those of the conditions. -/
  warnings : Warnings steps warnings
  /-- The fault is the only error. -/
  errors_eq : res.issues.filter (·.severity = .error) = [faultIssue f]

/-- A run whose search has ended with a fault has the result of one that found nothing. -/
theorem faultedResult_finish {passed : List DraftRule} {f : Fault} {s : Searched}
    {warnings : List Issue} (hpassed : Passed evs m 1 passed s.steps)
    (hwarnings : Warnings s.steps warnings) (hissues : s.issues = warnings ++ [faultIssue f]) :
    FaultedResult evs m passed f (finish s m none).result s.steps warnings where
  ruleName_eq := rfl
  destination_eq := rfl
  transformApplied_eq := rfl
  transformed_eq := rfl
  trace_eq := rfl
  number_eq i t ht := by
    rcases Nat.lt_or_ge i s.steps.length with hi | hi
    · rw [finish, List.getElem?_append_left hi] at ht
      rw [(hpassed.records i t ht).1, Int.add_comm]
      rfl
    · rw [finish, List.getElem?_append_right hi, List.getElem?_singleton] at ht
      split at ht
      · obtain rfl : i = s.steps.length := by omega
        obtain rfl := Option.some.inj ht
        exact Int.natCast_succ _
      · cases ht
  success_eq_false t ht := by
    rcases List.mem_append.1 ht with ht | ht
    · obtain ⟨i, hi⟩ := List.getElem?_of_mem ht
      exact (hpassed.records i t hi).2.1
    · rw [List.mem_singleton.1 ht]
      rfl
  kind_ne t ht := by
    rcases List.mem_append.1 ht with ht | ht
    · obtain ⟨i, hi⟩ := List.getElem?_of_mem ht
      obtain ⟨-, -, r, -, hrecords⟩ := hpassed.records i t hi
      rw [hrecords.kind_eq]
      decide
    · rw [List.mem_singleton.1 ht]
      intro h
      cases h
  passed := hpassed
  issues_eq := by simp [finish, hissues]
  warnings := hwarnings
  errors_eq := by
    have hnone : warnings.filter (·.severity = .error) = [] :=
      List.filter_eq_nil_iff.2 fun i hi => by simp [(hwarnings.warning i hi).1]
    simp [finish, hissues, hnone, faultIssue, noMatch, Issue.fail, Issue.warn]

end Draft

namespace Draft

open scoped Interpreter.Usual

/-- An evaluator of no expressions. -/
def speechless : DraftEvaluator :=
  (Table.evaluator []).forDrafts fun _ => .noAttribute "object" "evaluate"

/-- A draft whose only condition has no tag. -/
def untagged : DraftRule where
  name := some (.text "untagged")
  enabled := .value (.bool true)
  priority := .value (.int 20)
  conditions := .list [.bare DraftCondition.foreignKind]
  combination := .text Combination.all.name
  transform := none
  destination := some (.text "parking")

/-- A draft without a name, which matches every message. -/
def nameless : DraftRule :=
  { untagged with
    name := none
    priority := .value (.int 10)
    conditions := .list []
    destination := some (.text "archive") }

/-- The second candidate matches, but cannot be recorded. -/
theorem faulted_nameless :
    Faulted (.constant speechless) [nameless, untagged] ⟨.null, [], []⟩ [untagged]
      (.noAttribute "Rule" "name") := by
  have hordered : DraftRule.candidates [nameless, untagged] = .ok [untagged, nameless] := rfl
  have hexamined : examine (.constant speechless) ⟨.null, [], []⟩ untagged =
      .ok { matched := false
            entries := [⟨0, "unknown", none, none, false, some "Unknown condition type 'None'"⟩]
            issues := [.warn Finding.place "Unknown condition type 'None'" none]
            log := [⟨.warning, "Unknown condition type", [("condition_type", .null)]⟩]
            measured := [.condition "unknown" false] } := rfl
  have hnameless : ∀ evs m, examine evs m nameless = .ok ⟨true, [], [], [], []⟩ := fun _ _ => rfl
  exact .searching hordered (.passing hexamined rfl rfl (.recording (hnameless _ _) rfl))

/-- A condition on a field of the payload. -/
def onField (operator : Operator) (operand : Value) : DraftCondition where
  kind := Condition.kindOf Space.payload.name
  tag := Lookup.given (some (.text Space.payload.name))
  path := Lookup.given (some (.text "a"))
  operator := Lookup.given (some (.text operator.name))
  operand := Lookup.given (some operand)
  expression := Lookup.absent

/-- A draft that needs one of two conditions on a field, one of which repeats too often. -/
def tolerant : DraftRule :=
  { untagged with
    name := some (.text "tolerant")
    conditions := .list [onField .regex (.text "a\x7b4294967296\x7d"), onField .present .null]
    combination := .text Combination.any.name }

end Draft

end MessageRouting
