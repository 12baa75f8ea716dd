import MessageRouting.Draft.Routing
import MessageRouting.Proofs.DraftOrder
import MessageRouting.Proofs.Findings
import MessageRouting.Proofs.Run

/-!
# Runs over drafts of rules

A fault can end a run over drafts. If the drafts are those of well-formed rules, nothing but the
copy of the payload can fail: the run answers what the run over the rules answers
(`runAlong_map_draft`). Both examine the same rules step by step; `recorded` and `Routing.searched`
are what they have in common in between.
-/

namespace MessageRouting.Draft

open Expression Routing

/-! ## What needs no evaluation -/

theorem mapError_ok {ε ε' α : Type} (f : ε → ε') (a : α) :
    (Except.ok a : Except ε α).mapError f = .ok a := rfl

theorem named?_meanings (space : Space) :
    (Attribute.text space.name).named? DraftCondition.meanings =
      .ok (some (.field space)) := by
  cases space <;> rfl

theorem named?_operators (operator : Operator) :
    (Attribute.text operator.name).named? DraftCondition.operators = .ok (some operator) := by
  cases operator <;> rfl

theorem isFilled_text {s : String} (h : s ≠ "") : (Attribute.text s).isFilled = .ok true :=
  congrArg Except.ok (decide_eq_true h)

theorem combined_draft (r : Rule) (results : List Bool) :
    combined r.draft.combination results = .ok (r.combination.holds results) := by
  cases results <;> cases h : r.combination <;> simp [combined, Rule.draft, h] <;> rfl

theorem enabledExpression_draft (r : Rule) :
    enabledExpression r.draft.transform =
      .ok ((Routing.enabledExpression r).map .value) := by
  rcases h : r.transform with _ | t
  · simp [enabledExpression, Routing.enabledExpression, Rule.draft, h]
  · cases he : t.enabled <;>
      simp [enabledExpression, Routing.enabledExpression, Rule.draft, h, he, Attribute.isFilled,
        Value.isFilled, needed, bind, Except.bind, pure, Except.pure]

theorem searched_concat (count : Nat) (done : List (Rule × Examination)) (r : Rule)
    (e : Examination) : searched count (done ++ [(r, e)]) =
      { searched count done with
        steps := (searched count done).steps ++ [ruleStep done.length r e]
        issues := (searched count done).issues ++ e.issues
        log := (searched count done).log ++ e.log
        measured := (searched count done).measured ++ e.measured } := by
  simp [searched, List.mapIdx_concat]

theorem recordedCount_concat (steps : List Step) (s : Step) :
    recordedCount (steps ++ [s]) = recordedCount steps + s.entries.length := by
  simp [recordedCount]

/-- The course of an evaluator of drafts from a moment on. -/
theorem after_forDrafts (evs : Course) (refusal : Foreign → Fault) (moment : Nat) :
    (evs.forDrafts refusal).after moment = (evs.after moment).forDrafts refusal := rfl

/-! ## Conditions -/

variable [Interpreter]

@[simp] theorem plainText_text (s : String) : (Attribute.text s).plainText = .ok s := by
  simp [Attribute.plainText, Value.plainText, Value.plain, Scalar.plain, bind, Except.bind, pure,
    Except.pure]

@[simp] theorem logged_text (s : String) : (Attribute.text s).logged = .ok (.text s) := by
  simp [Attribute.logged, Value.plainText, Value.plain, Scalar.plain, bind, Except.bind, pure,
    Except.pure]

/-- A text as a tag can be logged, so that every fault becomes a warning. -/
theorem settle_text (s : String) (log : List Log.Event) (r : Except Fault Finding) :
    DraftCondition.settle (.text s) log r = .ok (Condition.settle (.text s) log r) := by
  cases r with
  | ok f => rfl
  | error f => rw [DraftCondition.settle, logged_text]; rfl

/-- The draft of a condition is evaluated like the condition. -/
theorem evaluate_draft (ev : Evaluator) (refusal : Foreign → Fault) (m : Message) (c : Condition) :
    c.draft.evaluate (ev.forDrafts refusal) m = .ok (c.evaluate ev m) := by
  cases c with
  | expression e =>
    by_cases he : e = ""
    · subst he
      rfl
    · have hmeaning : (Attribute.text Condition.expressionTag).named? DraftCondition.meanings =
          .ok (some .expression) := rfl
      simp only [Condition.draft, DraftCondition.evaluate, Lookup.orNull, Except.map,
        Option.getD_some, bind, Except.bind, hmeaning, DraftCondition.evaluateAs,
        DraftCondition.evaluateExpression, isFilled_text he, settle_text, plainText_text,
        Condition.evaluate_expression ev m he, Evaluator.forDrafts]
      rcases (ev.evaluate (.text e) m.payload).reply with o | f
      · cases ho : o.success <;> simp [Condition.ofReply, Condition.ofOutcome, ho, pure,
          Except.pure]
      · rfl
  | field space path operator operand =>
    simp only [Condition.draft, DraftCondition.evaluate, Lookup.orNull, Except.map,
      Option.getD_some, bind, Except.bind, named?_meanings, DraftCondition.evaluateAs,
      DraftCondition.evaluateField, DraftCondition.located, settle_text]
    rcases path with _ | p
    · rfl
    · by_cases hp : p = ""
      · subst hp
        rfl
      · rw [Condition.evaluate_field ev m space hp]
        simp only [Value.textOrNull, isFilled_text hp, ↓reduceIte, Attribute.locate, pure,
          Except.pure, DraftCondition.compareAs, named?_operators, plainText_text]
        rfl

theorem tagText_draft (c : Condition) : tagText c.draft = .ok c.tag := by
  cases c <;> simp [tagText, Condition.draft, Condition.tag, bind, Except.bind]

/-- The draft of a well-formed condition has the entry of the condition. -/
theorem entry_draft {c : Condition} (hc : c.wellFormed = true) (i : Nat) (f : Finding) :
    entry i c.tag c.draft f = .ok (Routing.entry i c f) := by
  cases c with
  | expression e =>
    have hfilled : (Attribute.text e).isFilled = .ok true := by
      simpa [Attribute.isFilled, Value.isFilled, Condition.wellFormed] using hc
    simp only [entry, target, operatorText, Condition.draft, DraftCondition.bare, Lookup.orNull,
      Except.map, Option.getD_some, Lookup.absent, bind, Except.bind, hfilled]
    rfl
  | field space path operator operand =>
    have hnull : (Attribute.text operator.name).isNull = false := rfl
    have hmissing : (Attribute.null).isFilled = .ok false := rfl
    cases path <;>
      simp only [entry, target, operatorText, Condition.draft, Lookup.orNull, Except.map,
        Option.getD_some, Option.getD_none, Lookup.absent, bind, Except.bind, hmissing, hnull,
        plainText_text] <;>
      rfl

/-- What is recorded of a rule when some of its conditions have been examined. -/
def recorded (evs : Course) (m : Message) (done : List Condition) : Examined :=
  let appraised := done.mapIdx fun i c => (c, c.evaluate (evs i) m)
  { results := appraised.map (·.2.finding.matched)
    examination :=
      { matched := false
        entries := appraised.mapIdx fun i a => Routing.entry i a.1 a.2.finding
        issues := appraised.filterMap (·.2.finding.issue)
        log := appraised.flatMap (·.2.log)
        measured := appraised.map fun a => .condition a.1.tag a.2.finding.matched } }

theorem length_results_recorded (evs : Course) (m : Message) (done : List Condition) :
    (recorded evs m done).results.length = done.length := by
  simp [recorded]

theorem examineCondition_draft (evs : Course) (refusal : Foreign → Fault) (m : Message)
    (done : List Condition) {c : Condition} (hc : c.wellFormed = true) :
    examineCondition (evs.forDrafts refusal done.length) m (recorded evs m done) c.draft =
      .ok (recorded evs m (done ++ [c])) := by
  have hentries : (recorded evs m done).examination.entries.length = done.length := by
    simp [recorded]
  simp only [examineCondition, Course.forDrafts, evaluate_draft, tagText_draft, hentries,
    entry_draft hc, mapError_ok, bind, Except.bind, pure, Except.pure]
  have hissue (a : Appraisal) : a.finding.issue.toList =
      [(c, a)].filterMap (·.2.finding.issue) := by
    cases h : a.finding.issue <;> simp [h]
  simp [recorded, List.mapIdx_concat, hissue]

theorem examineAll_draft (evs : Course) (refusal : Foreign → Fault) (m : Message)
    (done cs : List Condition) (hcs : ∀ c ∈ cs, c.wellFormed = true) :
    examineAll (evs.forDrafts refusal) m (recorded evs m done) (cs.map Condition.draft) =
      .ok (recorded evs m (done ++ cs)) := by
  induction cs generalizing done with
  | nil => rw [List.append_nil]; rfl
  | cons c cs ih =>
    rw [List.map_cons, examineAll, length_results_recorded,
      examineCondition_draft evs refusal m done (hcs c List.mem_cons_self)]
    have hrest := ih (done ++ [c]) fun d hd => hcs d (List.mem_cons_of_mem _ hd)
    rwa [List.append_assoc, List.singleton_append] at hrest

/-! ## Rules -/

theorem examine_draft (evs : Course) (refusal : Foreign → Fault) (m : Message) {r : Rule}
    (hr : r.wellFormed = true) :
    examine (evs.forDrafts refusal) m r.draft = .ok (Routing.examine evs m r) := by
  have hexamined := examineAll_draft evs refusal m [] r.conditions (Rule.wellFormed_conditions hr)
  rw [List.nil_append] at hexamined
  have hconditions : r.draft.conditions.toList = (r.conditions.map Condition.draft, none) := rfl
  rw [examine, hconditions, show Examined.start = recorded evs m [] from rfl]
  simp only [hexamined, combined_draft, bind, Except.bind, mapError_ok]
  rfl

theorem step_draft (i : Nat) (r : Rule) (e : Examination) :
    step (i + 1) r.draft e = .ok (ruleStep i r e) := by
  simp only [step, Rule.draft, needed, plainText_text, bind, Except.bind]
  rfl

/-- The expression of a draft is tried like that of the rule. -/
theorem tried_draft (ev : Evaluator) (refusal : Foreign → Fault) (m : Message) (e : String) :
    tried (ev.forDrafts refusal) m (some (.text e)) =
      .ok (some (attempt ev (.text e) m.payload)) := by
  have hanswer : (ev.forDrafts refusal).evaluate (.text e) m.payload =
      ev.evaluate (.text e) m.payload := rfl
  rw [tried, hanswer, attempt]
  cases hreply : (ev.evaluate (.text e) m.payload).reply with
  | answered o => simp [loggedExpression, attemptOf, hreply, bind, Except.bind, pure, Except.pure]
  | raised f => simp [loggedExpression, bind, Except.bind, pure, Except.pure]

/-- A found draft gives the route of the rule. -/
theorem concludeFound_draft (ev : Evaluator) (refusal : Foreign → Fault) (s : Searched)
    (m : Message) (r : Rule) :
    concludeFound (ev.forDrafts refusal) s m r.draft =
      .ok (Routing.conclude ev s m (some (routeOf r))) := by
  have hname : ((needed "Rule" "name" r.draft.name).bind fun a => a.recorded "TraceStep") =
      .ok (some r.name) := rfl
  have hdestination : needed "Rule" "destination" r.draft.destination =
      .ok (.text r.destination) := rfl
  rw [concludeFound, enabledExpression_draft, hname, hdestination]
  rcases h : Routing.enabledExpression r with _ | e
  · simp only [routeOf, h]
    rfl
  · obtain ⟨t, rfl⟩ : ∃ t, e = .text t := by
      unfold Routing.enabledExpression at h
      split at h
      · split at h <;> cases h
        exact ⟨_, rfl⟩
      · cases h
    simp only [routeOf, h, Option.map_some, mapError_ok, tried_draft, bind, Except.bind]
    rfl

/-! ## Runs -/

/-- How a search over drafts ends if the search over the rules has found a rule or not. -/
def endingOf : Option Rule → Ending
  | some r => .found r.draft
  | none => .exhausted

/-- The search goes on alike from what both have recorded of the rules before. -/
theorem search_draft (evs : Course) (refusal : Foreign → Fault) (m : Message) (count : Nat)
    (done : List (Rule × Examination)) (rs : List Rule) (hrs : ∀ r ∈ rs, r.wellFormed = true) :
    search (evs.forDrafts refusal) m (searched count done) (rs.map Rule.draft) =
      (searched count (done ++ (Routing.search evs m rs).1),
        endingOf (Routing.search evs m rs).2) := by
  induction rs generalizing evs done with
  | nil => rw [Routing.search, List.append_nil]; rfl
  | cons r rs ih =>
    have hsteps : (searched count done).steps.length = done.length := by
      rw [searched, List.length_mapIdx]
    rw [List.map_cons, search, examine_draft evs refusal m (hrs r List.mem_cons_self),
      Routing.search]
    simp only [Searched.observe, hsteps, step_draft]
    have hrest := ih (evs.after r.conditions.length) (done ++ [(r, Routing.examine evs m r)])
      fun s hs => hrs s (List.mem_cons_of_mem _ hs)
    rw [List.append_assoc, List.singleton_append] at hrest
    cases hm : (Routing.examine evs m r).matched with
    | true =>
      simp only [↓reduceIte, searched_concat, endingOf]
    | false =>
      simp only [Bool.false_eq_true, ↓reduceIte, length_entries_examine, after_forDrafts]
      rw [← hrest, searched_concat]

theorem recordedCount_searched (evs : Course) (m : Message) (count : Nat)
    (done : List (Rule × Examination)) (rs : List Rule) :
    recordedCount (searched count (done ++ examinations evs m rs)).steps =
      recordedCount (searched count done).steps + conditionCount rs := by
  induction rs generalizing evs done with
  | nil => rw [examinations, List.append_nil, conditionCount_nil, Nat.add_zero]
  | cons r rs ih =>
    have hrest := ih (evs.after r.conditions.length) (done ++ [(r, Routing.examine evs m r)])
    rw [List.append_assoc, List.singleton_append, searched_concat] at hrest
    have hentries : (ruleStep done.length r (Routing.examine evs m r)).entries.length =
        r.conditions.length := length_entries_examine evs m r
    rw [examinations, hrest, recordedCount_concat, hentries, conditionCount_cons, Nat.add_assoc]

/-- **A run over the drafts of well-formed rules** answers what the run over the rules answers: only
the copy of the payload can fail. -/
theorem runAlong_map_draft (evs : Course) (refusal : Foreign → Fault) {rules : List Rule}
    (h : ∀ r ∈ rules, r.wellFormed = true) (m : Message) :
    Draft.runAlong (evs.forDrafts refusal) (rules.map Rule.draft) m =
      (MessageRouting.runAlong evs rules m).mapError fun halt => .fault halt.fault := by
  have hcandidates : ∀ r ∈ candidates rules, r.wellFormed = true := fun r hr =>
    h r (mem_candidates.1 hr).1
  have hsearch := search_draft evs refusal m rules.length [] (candidates rules) hcandidates
  rw [search_eq, List.nil_append] at hsearch
  have hall : searchAll (evs.forDrafts refusal) (rules.map Rule.draft) m =
      (searched rules.length (examinations evs m (examined evs rules m)),
        endingOf (found evs rules m)) := by
    rw [searchAll, DraftRule.candidates_map_draft, List.length_map]
    exact hsearch
  have hcount := recordedCount_searched evs m rules.length [] (examined evs rules m)
  rw [List.nil_append, show recordedCount (searched rules.length []).steps = 0 from rfl,
    Nat.zero_add] at hcount
  rw [Draft.runAlong, hall]
  rcases Nat.lt_or_ge Interpreter.copying.depth m.payload.height with hlt | hle
  · rw [runAlong_of_lt_height evs rules m hlt]
    simp only [Recursion.enter_of_lt hlt]
    rfl
  · rw [runAlong_of_height_le evs rules m hle, routeAlong_eq]
    simp only [Recursion.enter_of_le hle, hcount]
    cases found evs rules m with
    | none => rfl
    | some r => exact concludeFound_draft _ refusal _ m r

end MessageRouting.Draft
