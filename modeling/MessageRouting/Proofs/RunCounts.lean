import MessageRouting.Proofs.JsonValues
import MessageRouting.Proofs.RunTrace

/-!
# What is counted in runs

A run that has a result counts what its trace shows, entry by entry and step by step
(`measured_routeAlong`), and once the run itself. A run that is broken off has counted the
conditions that it evaluated; no trace shows them, and the run itself is not counted. Over any
sequence of runs each counter grows accordingly (`counts_exact`), whether rules match or not, and
whether evaluators answer, fail or raise.
-/

namespace MessageRouting

open Expression Routing

/-! ## One run -/

/-- What a step shows to have been counted: its conditions, and a transform that was tried. -/
def Step.measurements (s : Step) : List Measurement :=
  s.entries.map (fun e => .condition e.tag e.matched) ++
    if s.kind = .transform then [.transform s.success] else []

namespace Routing

theorem measurements_ruleStep (i : Nat) (r : Rule) (e : Examination) :
    (ruleStep i r e).measurements = e.entries.map fun x => .condition x.tag x.matched := by
  simp [Step.measurements, ruleStep, conditionStep]

theorem measured_conclude (ev : Evaluator) (s : Searched) (m : Message) (route : Option Route) :
    (conclude ev s m route).measured = s.measured ++
      (attempted ev m route).toList.map fun a => .transform a.outcome.success := by
  rcases route with _ | ⟨name, destination, _ | e⟩ <;>
    simp [conclude, finish, finishTransformed, attempted]

variable [Interpreter]

theorem measured_examine (evs : Course) (m : Message) (r : Rule) :
    (examine evs m r).measured =
      (examine evs m r).entries.map fun x => .condition x.tag x.matched := by
  simp only [examine, map_mapIdx, List.mapIdx_mapIdx]
  rfl

/-- The examinations of rules count what their steps show. -/
theorem flatMap_measured_examinations (evs : Course) (m : Message) (rs : List Rule) :
    (examinations evs m rs).flatMap (·.2.measured) =
      ((examinations evs m rs).mapIdx fun i x => ruleStep i x.1 x.2).flatMap
        Step.measurements := by
  have hsteps : ((examinations evs m rs).mapIdx fun i x => ruleStep i x.1 x.2).map
      Step.measurements = (examinations evs m rs).map (·.2.measured) := by
    apply List.ext_getElem?
    intro i
    simp only [List.getElem?_map, List.getElem?_mapIdx, getElem?_examinations, Option.map_map]
    cases rs[i]? with
    | none => rfl
    | some r => simp [measurements_ruleStep, measured_examine]
  rw [List.flatMap_def, List.flatMap_def, hsteps]

variable (evs : Course) (rules : List Rule) (m : Message)

/-- **A run counts what its trace shows.** -/
theorem measured_routeAlong :
    (routeAlong evs rules m).measured =
      (routeAlong evs rules m).result.trace.flatMap Step.measurements := by
  have hroute : ∀ n, (routeStep n m.payload ((found evs rules m).map routeOf)).measurements = [] :=
    fun n => by cases found evs rules m <;> rfl
  have htransform : (transformSteps evs rules m).flatMap Step.measurements =
      (tried evs rules m).toList.map fun a => .transform a.outcome.success := by
    cases h : tried evs rules m <;> simp [transformSteps, h, transformStep, Step.measurements]
  rw [trace_routeAlong, List.flatMap_append, List.flatMap_cons, hroute, List.nil_append, htransform,
    conditionSteps, ← flatMap_measured_examinations, routeAlong_eq, measured_conclude]
  rfl

/-- A run that is broken off has counted the conditions that it evaluated. -/
theorem measured_uncopied :
    (uncopied evs rules m).measured =
      (conditionSteps evs rules m).flatMap Step.measurements := by
  rw [conditionSteps, ← flatMap_measured_examinations]
  rfl

end Routing

/-! ## Counters -/

namespace Metrics

variable {m : Metrics}

theorem foldl_record (h : m.enabled = true) (xs : List Measurement) :
    xs.foldl record m = ⟨true, m.measured ++ xs⟩ := by
  induction xs generalizing m with
  | nil =>
    rw [List.foldl_nil, List.append_nil, ← h]
  | cons x xs ih =>
    have hrecord : m.record x = ⟨true, m.measured ++ [x]⟩ := by
      rw [record, if_pos h, h]
    rw [List.foldl_cons, hrecord, ih rfl, List.append_assoc, List.singleton_append]

end Metrics

/-! ## Runs one after the other -/

/-- A run: with which evaluator, rules and message, and how long it takes, in seconds. -/
structure Occasion where
  /-- The evaluator, in the course of the run. -/
  evs : Course
  /-- The rules. -/
  rules : List Rule
  /-- The message. -/
  message : Message
  /-- The duration. -/
  seconds : Binary64

namespace Occasion

variable [Interpreter]

/-- What the run comes to. -/
def answer (o : Occasion) : Except Halt Run := runAlong o.evs o.rules o.message

/-- The result, if there is one. -/
def result? (o : Occasion) : Option RunResult := o.answer.toOption.map (·.result)

/-- The steps that a trace shows. -/
def shown (o : Occasion) : List Step := o.result?.elim [] (·.trace)

/-- The steps of a run that was broken off, which no trace shows. -/
def lost (o : Occasion) : List Step :=
  if o.result?.isSome then [] else conditionSteps o.evs o.rules o.message

/-- All that the run counts. -/
def measurements (o : Occasion) : List Measurement :=
  match o.answer with
  | .ok run => run.measurements o.seconds
  | .error halt => halt.measured

theorem result?_of_height_le {o : Occasion}
    (h : o.message.payload.height ≤ Interpreter.copying.depth) :
    o.result? = some (routeAlong o.evs o.rules o.message).result := by
  rw [result?, answer, runAlong_of_height_le _ _ _ h]
  rfl

theorem result?_of_lt_height {o : Occasion}
    (h : Interpreter.copying.depth < o.message.payload.height) : o.result? = none := by
  rw [result?, answer, runAlong_of_lt_height _ _ _ h]
  rfl

/-- There is a result exactly if the payload can be copied. -/
theorem isSome_result? (o : Occasion) :
    o.result?.isSome = true ↔ o.message.payload.height ≤ Interpreter.copying.depth := by
  rcases Nat.lt_or_ge Interpreter.copying.depth o.message.payload.height with hlt | hle
  · simp [result?_of_lt_height hlt, hlt]
  · simp [result?_of_height_le hle, hle]

/-- **A run counts what its steps show**, and itself if it has a result. -/
theorem measurements_eq (o : Occasion) :
    o.measurements = (o.shown ++ o.lost).flatMap Step.measurements ++
      o.result?.toList.map fun r => .run r.matched o.seconds := by
  rcases Nat.lt_or_ge Interpreter.copying.depth o.message.payload.height with hlt | hle
  · simp [measurements, shown, lost, result?_of_lt_height hlt, answer,
      runAlong_of_lt_height _ _ _ hlt, measured_uncopied]
  · simp [measurements, shown, lost, result?_of_height_le hle, answer,
      runAlong_of_height_le _ _ _ hle, Run.measurements, measured_routeAlong]

end Occasion

section

variable [Interpreter]

/-- The measurements after some runs. -/
def Metrics.after (m : Metrics) (os : List Occasion) : Metrics :=
  os.foldl (fun m o => m.recordAnswer o.answer o.seconds) m

open Occasion

theorem Metrics.recordAnswer_eq {m : Metrics} (h : m.enabled = true) (o : Occasion) :
    m.recordAnswer o.answer o.seconds = ⟨true, m.measured ++ o.measurements⟩ := by
  unfold recordAnswer measurements
  cases o.answer <;> exact foldl_record h _

theorem Metrics.after_eq {m : Metrics} (h : m.enabled = true) (os : List Occasion) :
    m.after os = ⟨true, m.measured ++ os.flatMap measurements⟩ := by
  induction os generalizing m with
  | nil =>
    rw [after, List.foldl_nil, List.flatMap_nil, List.append_nil, ← h]
  | cons o os ih =>
    rw [after, List.foldl_cons, recordAnswer_eq h, ← after, ih rfl, List.flatMap_cons,
      List.append_assoc]

/-- The steps of some runs, shown or lost. -/
def steps (os : List Occasion) : List Step := os.flatMap fun o => o.shown ++ o.lost

/-- What is counted in some runs is what their steps show, and the runs with a result. -/
theorem countP_measurements (p : Measurement → Bool) (os : List Occasion) :
    (os.flatMap measurements).countP p = ((steps os).flatMap Step.measurements).countP p +
      os.countP fun o => o.result?.any fun r => p (.run r.matched o.seconds) := by
  induction os with
  | nil => rfl
  | cons o os ih =>
    have hresult : (o.result?.toList.map fun r => Measurement.run r.matched o.seconds).countP p =
        if o.result?.any fun r => p (.run r.matched o.seconds) then 1 else 0 := by
      cases o.result? <;> simp [List.countP_cons]
    have hsteps : steps (o :: os) = (o.shown ++ o.lost) ++ steps os := List.flatMap_cons
    rw [List.flatMap_cons, measurements_eq, hsteps]
    simp only [List.flatMap_append, List.countP_append, List.countP_cons, hresult, ih]
    omega

end

/-! ## What steps show -/

theorem mem_measurements_cases {s : Step} {x : Measurement} (h : x ∈ s.measurements) :
    (∃ tag b, x = .condition tag b) ∨ ∃ b, x = .transform b := by
  rcases List.mem_append.1 h with h | h
  · obtain ⟨e, -, rfl⟩ := List.mem_map.1 h
    exact .inl ⟨_, _, rfl⟩
  · split at h
    · exact .inr ⟨_, List.mem_singleton.1 h⟩
    · cases h

/-- No step shows a run. -/
theorem countP_steps_eq_zero {p : Measurement → Bool}
    (hcondition : ∀ tag b, p (.condition tag b) = false)
    (htransform : ∀ b, p (.transform b) = false) (ss : List Step) :
    (ss.flatMap Step.measurements).countP p = 0 := by
  rw [List.countP_eq_zero]
  intro x hx
  obtain ⟨s, -, hx⟩ := List.mem_flatMap.1 hx
  rcases mem_measurements_cases hx with ⟨tag, b, rfl⟩ | ⟨b, rfl⟩
  · simp [hcondition]
  · simp [htransform]

theorem count_condition_steps (tag : String) (b : Bool) (ss : List Step) :
    (ss.flatMap Step.measurements).count (.condition tag b) =
      (ss.flatMap (·.entries)).countP fun e => e.tag = tag && e.matched = b := by
  induction ss with
  | nil => rfl
  | cons s ss ih =>
    have hstep : s.measurements.count (.condition tag b) =
        s.entries.countP fun e => e.tag = tag && e.matched = b := by
      have hkind : (if s.kind = .transform then [Measurement.transform s.success] else []).count
          (.condition tag b) = 0 := by
        split <;> simp
      rw [Step.measurements, List.count_append, hkind, List.count_eq_countP, List.countP_map]
      apply List.countP_congr
      intro e _
      simp
    simp only [List.flatMap_cons, List.count_append, List.countP_append, ih, hstep]

theorem count_transform_steps (b : Bool) (ss : List Step) :
    (ss.flatMap Step.measurements).count (.transform b) =
      ss.countP fun s => s.kind = .transform && s.success = b := by
  induction ss with
  | nil => rfl
  | cons s ss ih =>
    have hstep : s.measurements.count (.transform b) =
        if s.kind = .transform && s.success = b then 1 else 0 := by
      have hentries : (s.entries.map fun e => Measurement.condition e.tag e.matched).count
          (.transform b) = 0 := by
        rw [List.count_eq_zero]
        simp
      rw [Step.measurements, List.count_append, hentries]
      by_cases hkind : s.kind = .transform <;> simp [hkind, List.count_singleton]
    rw [List.flatMap_cons, List.count_append, ih, hstep, List.countP_cons, Nat.add_comm]

/-! ## Any sequence of runs -/

section

variable [Interpreter]

/-- The results of some runs. -/
def results (os : List Occasion) : List RunResult := os.filterMap Occasion.result?

theorem countP_results (p : RunResult → Bool) (os : List Occasion) :
    (os.countP fun o => o.result?.any p) = (results os).countP p := by
  induction os with
  | nil => rfl
  | cons o os ih =>
    rw [List.countP_cons, ih]
    cases h : o.result? <;> simp [results, h, List.countP_cons]

/-- Results count nothing but runs. -/
theorem countP_result?_eq_zero {p : Measurement → Bool} (hrun : ∀ b s, p (.run b s) = false)
    (os : List Occasion) :
    (os.countP fun o => o.result?.any fun r => p (.run r.matched o.seconds)) = 0 := by
  refine List.countP_eq_zero.2 fun o _ => ?_
  simp [hrun]

/-- The steps that are lost are those of conditions. -/
theorem kind_of_mem_lost {o : Occasion} {s : Step} (h : s ∈ o.lost) : s.kind = .condition := by
  unfold Occasion.lost at h
  split at h
  · cases h
  · obtain ⟨i, hi⟩ := List.getElem?_of_mem h
    rw [getElem?_conditionSteps, Option.map_eq_some_iff] at hi
    obtain ⟨r, -, rfl⟩ := hi
    rfl

theorem countP_transforms (b : Bool) (os : List Occasion) :
    ((steps os).countP fun s => s.kind = .transform && s.success = b) =
      (os.flatMap Occasion.shown).countP fun s => s.kind = .transform && s.success = b := by
  induction os with
  | nil => rfl
  | cons o os ih =>
    have hlost : (o.lost.countP fun s => s.kind = .transform && s.success = b) = 0 :=
      List.countP_eq_zero.2 fun s hs => by simp [kind_of_mem_lost hs]
    have hsteps : steps (o :: os) = (o.shown ++ o.lost) ++ steps os := List.flatMap_cons
    rw [hsteps, List.flatMap_cons]
    simp only [List.countP_append, ih, hlost, Nat.add_zero]

/-- **Each counter grows by what the runs show.** Runs are counted by the results with a rule and
those without, durations by all results, and transforms by the steps of all traces that tried one
with success or without. Conditions are counted by the entries with their tag and result, those of
all traces and those that are lost with the runs that are broken off. A run has a result exactly if
its payload can be copied. -/
theorem counts_exact {m : Metrics} (h : m.enabled = true) (os : List Occasion) :
    (∀ b, (m.after os).runs b = m.runs b + (results os).countP fun r => r.matched = b) ∧
    (m.after os).durations = m.durations + (results os).length ∧
    (∀ tag b, (m.after os).conditions tag b = m.conditions tag b +
      ((steps os).flatMap (·.entries)).countP fun e => e.tag = tag && e.matched = b) ∧
    (∀ b, (m.after os).transforms b = m.transforms b +
      (os.flatMap Occasion.shown).countP fun s => s.kind = .transform && s.success = b) ∧
    ∀ o ∈ os, o.result?.isSome = true ↔
      o.message.payload.height ≤ Interpreter.copying.depth := by
  have hcount : ∀ p, (m.after os).measured.countP p = m.measured.countP p +
      (((steps os).flatMap Step.measurements).countP p +
        os.countP fun o => o.result?.any fun r => p (.run r.matched o.seconds)) := by
    intro p
    rw [Metrics.after_eq h, List.countP_append, countP_measurements]
  have hsteps : ∀ p, (∀ b s, p (.run b s) = false) → (m.after os).measured.countP p =
      m.measured.countP p + ((steps os).flatMap Step.measurements).countP p := by
    intro p hp
    rw [hcount, countP_result?_eq_zero hp, Nat.add_zero]
  refine ⟨fun b => ?_, ?_, fun tag b => ?_, fun b => ?_, fun o _ => o.isSome_result?⟩
  · rw [Metrics.runs, hcount, countP_steps_eq_zero (fun _ _ => rfl) (fun _ => rfl), Nat.zero_add,
      ← countP_results]
    rfl
  · rw [Metrics.durations, hcount, countP_steps_eq_zero (fun _ _ => rfl) (fun _ => rfl),
      Nat.zero_add]
    exact congrArg (m.durations + ·)
      ((countP_results (fun _ => true) os).trans (congrFun List.countP_true _))
  · rw [Metrics.conditions, List.count_eq_countP, hsteps _ (by simp), ← List.count_eq_countP,
      ← List.count_eq_countP, count_condition_steps]
    rfl
  · rw [Metrics.transforms, List.count_eq_countP, hsteps _ (by simp), ← List.count_eq_countP,
      ← List.count_eq_countP, count_transform_steps, countP_transforms]
    rfl

end

/-- A rule with two conditions, one of which is enough, and a transform. -/
def numbered : Rule where
  name := "numbered"
  description := none
  enabled := true
  priority := Rule.usualPriority
  conditions := [.field .payload (some "id") .equals (.int 1),
    .field .payload (some "id") .present .null]
  combination := .any
  transform := some ⟨true, "."⟩
  destination := "queue"

/-- An evaluator that always raises. -/
def broken : Evaluator where
  evaluate _ _ := ⟨.raised (.raised "out of memory"), []⟩
  validate _ := ⟨.raised (.raised "out of memory"), []⟩

/-- A run that finds the rule, whose transform fails. -/
def foundRun : Occasion where
  evs := .constant broken
  rules := [numbered]
  message := { Message.empty with payload := .record [("id", .int 2)] }
  seconds := .zero false

/-- A run with some payload that finds no rule. -/
def missedRun (payload : Value) : Occasion where
  evs := .constant broken
  rules := [numbered]
  message := { Message.empty with payload := payload }
  seconds := .zero false

theorem candidates_numbered : candidates [numbered] = [numbered] := List.mergeSort_singleton _

section

open scoped Interpreter.Usual

theorem counts_exact_foundAndMissed :
    (Metrics.start true).enabled = true ∧
      let m := (Metrics.start true).after [foundRun, missedRun .null]
      m.runs true = 1 ∧ m.runs false = 1 ∧ m.durations = 2 ∧ m.conditions "payload" true = 1 ∧
        m.conditions "payload" false = 3 ∧ m.transforms true = 0 ∧ m.transforms false = 1 := by
  obtain ⟨hruns, hdurations, hconditions, htransforms, -⟩ :=
    counts_exact (show (Metrics.start true).enabled = true from rfl) [foundRun, missedRun .null]
  refine ⟨rfl, ?_⟩
  have hfound : foundRun.result? = some (routeAlong (.constant broken) [numbered]
      foundRun.message).result := Occasion.result?_of_height_le (by decide)
  have hmissed : (missedRun .null).result? = some (routeAlong (.constant broken) [numbered]
      (missedRun .null).message).result := Occasion.result?_of_height_le (by decide)
  simp only [hruns, hdurations, hconditions, htransforms, results, steps, Occasion.shown,
    Occasion.lost, hfound, hmissed, routeAlong, candidates_numbered, List.filterMap_cons,
    List.filterMap_nil, List.flatMap_cons, List.flatMap_nil]
  decide

/-- A payload that nests too deep to be copied. -/
def deepPayload : Value := (Value.list []).wrapped 600

/-- The conditions do not hold for a payload that is a list. -/
theorem countP_conditionSteps_missed (xs : List Value) :
    ((conditionSteps (.constant broken) [numbered] (missedRun (.list xs)).message).flatMap
      (·.entries)).countP (fun e => e.tag = "payload" && e.matched = false) = 2 := by
  rw [conditionSteps, examined, candidates_numbered]
  rfl

/-- A run that is broken off is not counted, but its conditions are, and there is no trace that
shows them. -/
theorem counts_tooDeep :
    let m := (Metrics.start true).after [missedRun deepPayload]
    numbered.wellFormed = true ∧ m.durations = 0 ∧ m.conditions "payload" false = 2 ∧
      (missedRun deepPayload).shown = [] := by
  have hresult : (missedRun deepPayload).result? = none := by
    refine Occasion.result?_of_lt_height ?_
    rw [show (missedRun deepPayload).message.payload = deepPayload from rfl, deepPayload,
      Value.height_wrapped]
    decide
  have hafter : ((Metrics.start true).after [missedRun deepPayload]).measured =
      (conditionSteps (.constant broken) [numbered] (missedRun deepPayload).message).flatMap
        Step.measurements := by
    rw [Metrics.after_eq rfl, List.flatMap_cons, List.flatMap_nil,
      Occasion.measurements_eq, Occasion.shown, Occasion.lost, hresult]
    simp [Metrics.start, missedRun]
  refine ⟨by decide, ?_, ?_, by rw [Occasion.shown, hresult]; rfl⟩
  · rw [Metrics.durations, hafter, countP_steps_eq_zero (fun _ _ => rfl) (fun _ => rfl)]
  · rw [Metrics.conditions, hafter, count_condition_steps]
    exact countP_conditionSteps_missed _

end

end MessageRouting
