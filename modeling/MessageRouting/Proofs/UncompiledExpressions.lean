import MessageRouting.Proofs.LintPositions
import MessageRouting.Proofs.RunIssues
import MessageRouting.Query.Basic

/-!
# Expressions that cannot be compiled

A check of rules compiles their expressions; a run compiles them again, or takes a program that it
kept, and then runs them. `Query.Library` is what both use: it compiles and runs, in whatever way.
An engine that keeps programs answers as if it compiled each time (`answers_eq`), and an expression
that a check refuses fails on every input, for the reason that the check gave
(`evaluate_of_invalid`).

The report of a check names the rule, and the condition or the transform, whose expression is
refused. `refused_condition` and `refused_transform` go back from the place that is named to the
expression: no other issue has its place and its words. A run that comes to this expression records
the same error and the same suggestion (`reportedAlike_report`), as a warning for a condition and as
an error for a transform.
-/

namespace MessageRouting

open Expression

namespace Query

namespace Library

variable (lib : Library)

/-! ## Programs that are kept -/

/-- What an engine is asked. -/
inductive Question where
  /-- To check an expression. -/
  | check (text : String)
  /-- To evaluate an expression on an input. -/
  | evaluate (text : String) (input : Value)

/-- What an engine answers. -/
inductive Answer where
  /-- A verdict. -/
  | verdict (v : Reply Verdict)
  /-- An outcome. -/
  | outcome (o : Logged Outcome)

/-- The expression that a question is about. -/
def Question.text : Question → String
  | check text => text
  | evaluate text _ => text

/-- What an evaluator replies to a question. -/
def Question.reply (ev : Evaluator) : Question → Answer
  | check text => .verdict (ev.validate (.text text)).reply
  | evaluate text input => .outcome (ev.evaluate (.text text) input)

/-- The answer to a question with the program of its expression. -/
def answer (program : Except Trouble lib.Program) : Question → Answer
  | .check _ => .verdict (verdict program)
  | .evaluate text input =>
    .outcome (conclude (.text text) (program >>= fun p => lib.run p input))

/-- The program of an expression, from those that are kept or else compiled. What could be compiled
is kept, but not more than some programs: the last used stand first. -/
def fetch (most : Nat) (kept : List (String × lib.Program)) (text : String) :
    Except Trouble lib.Program × List (String × lib.Program) :=
  match kept.lookup text with
  | some p => (.ok p, (text, p) :: kept.filter fun x => x.1 ≠ text)
  | none =>
    match lib.compile (.text text) with
    | .ok p => (.ok p, ((text, p) :: kept).take most)
    | .error t => (.error t, kept)

/-- The answers of an engine that keeps programs to questions, one after the other. -/
def answers (most : Nat) (kept : List (String × lib.Program)) : List Question → List Answer
  | [] => []
  | q :: qs =>
    let (program, kept) := lib.fetch most kept q.text
    lib.answer program q :: answers most kept qs

/-- The programs that are kept are those of their texts. -/
def Sound (kept : List (String × lib.Program)) : Prop :=
  ∀ x ∈ kept, lib.compile (.text x.1) = .ok x.2

/-- A program that is kept is the one that would be compiled, and so are those kept afterwards. -/
theorem fetch_of_sound {kept : List (String × lib.Program)} (h : lib.Sound kept) (most : Nat)
    (text : String) :
    (lib.fetch most kept text).1 = lib.compile (.text text) ∧
      lib.Sound (lib.fetch most kept text).2 := by
  unfold fetch
  cases hlookup : kept.lookup text with
  | some p =>
    obtain ⟨before, after, rfl, -⟩ := List.lookup_eq_some_iff.1 hlookup
    have hp := h (text, p) (by simp)
    refine ⟨hp.symm, List.forall_mem_cons.2 ⟨hp, fun x hx => h x (List.mem_filter.1 hx).1⟩⟩
  | none =>
    dsimp only
    cases hcompile : lib.compile (.text text) with
    | ok p =>
      refine ⟨rfl, fun x hx => ?_⟩
      rcases List.mem_cons.1 (List.mem_of_mem_take hx) with rfl | hx
      · exact hcompile
      · exact h x hx
    | error t => exact ⟨rfl, h⟩

/-- The answer with the program of an expression is what the evaluator replies. -/
theorem answer_compile (q : Question) : lib.answer (lib.compile (.text q.text)) q =
    q.reply lib.evaluator := by
  cases q <;> rfl

/-- **What an engine keeps changes no answer**: it answers each question as the evaluator does. -/
theorem answers_eq (most : Nat) {kept : List (String × lib.Program)} (h : lib.Sound kept)
    (questions : List Question) :
    lib.answers most kept questions = questions.map (·.reply lib.evaluator) := by
  induction questions generalizing kept with
  | nil => rfl
  | cons q qs ih =>
    obtain ⟨hprogram, hkept⟩ := lib.fetch_of_sound h most q.text
    rw [List.map_cons, ← answer_compile, ← hprogram, ← ih hkept, answers]

/-! ## Errors -/

variable {lib} {expression : Value} {v : Verdict}

/-- **An expression that is refused fails on every input**, for the same reason. -/
theorem evaluate_of_invalid (h : (lib.evaluator.validate expression).reply = .answered v)
    (hv : v.valid = false) (input : Value) :
    (lib.evaluator.evaluate expression input).reply =
      .answered (.failed v.error v.suggestions) := by
  have hverdict : verdict (lib.compile expression) = .answered v := h
  unfold evaluator execute
  cases hcompile : lib.compile expression with
  | ok p =>
    rw [hcompile] at hverdict
    cases hverdict
    cases hv
  | error t =>
    rw [hcompile] at hverdict
    cases t with
    | reported r =>
      cases hverdict
      simp only [hcompile]
      rfl
    | crashed f => cases hverdict

/-- A verdict against an expression says why. -/
theorem exists_error_of_invalid (h : (lib.evaluator.validate expression).reply = .answered v)
    (hv : v.valid = false) : ∃ message, v.error = some message := by
  have hverdict : verdict (lib.compile expression) = .answered v := h
  unfold verdict at hverdict
  split at hverdict
  · cases hverdict
    cases hv
  · cases hverdict
    exact ⟨_, rfl⟩
  · cases hverdict

end Library

end Query

namespace Lint

/-! ## Where a report speaks of an expression -/

section Places

variable {l : Limits} {ev : Option Evaluator} {place q message : String} {r : Rule} {i : Issue}
  {issues : List Issue} {n j : Nat} {name : String} {suggestion : Option String}

theorem transformPlace_ne_rulePlace : transformPlace place ≠ rulePlace n name :=
  place_ne (getLast?_transformPlace place) (getLast?_rulePlace n name) (by decide)

theorem transformPlace_ne_quoted : transformPlace place ≠ quoted name :=
  place_ne (getLast?_transformPlace place) (getLast?_quoted name) (by decide)

theorem transformPlace_ne_rules : transformPlace place ≠ "rules" :=
  place_ne (d := 's') (getLast?_transformPlace place) rfl (by decide)

/-- The place of a rule determines its position. -/
theorem rulePlace_inj {n' : Nat} {name' : String} (h : rulePlace n name = rulePlace n' name') :
    n = n' := by
  have hlist := congrArg String.toList h
  simp only [toList_rulePlace] at hlist
  exact toList_toString_inj (append_mark_inj (not_mem_toString (by decide))
    (not_mem_toString (by decide)) (List.append_cancel_left hlist)).1

theorem transformPlace_inj {place' : String} (h : transformPlace place = transformPlace place') :
    place = place' := by
  have hlist := congrArg String.toList h
  simp only [transformPlace, String.toList_append] at hlist
  exact String.toList_inj.1 (List.append_cancel_right hlist)

/-- The place of a transform is no place of another rule. -/
theorem OfRule.ne_transformPlace {n' : Nat} {name' : String} (h : OfRule (rulePlace n' name') q)
    (hne : n' ≠ n) : q ≠ transformPlace (rulePlace n name) := by
  rintro rfl
  generalize hq : transformPlace (rulePlace n name) = q at h
  cases h with
  | rule => exact transformPlace_ne_rulePlace hq
  | condition j' => exact conditionPlace_ne_transformPlace hq.symm
  | transform => exact hne (rulePlace_inj (transformPlace_inj hq)).symm

/-- The place of a condition, or that of the transform, of a rule. -/
def IsPartPlace (place q : String) : Prop :=
  (∃ j, q = conditionPlace place j) ∨ q = transformPlace place

/-- An evaluator refuses an expression, for a reason and with a suggestion. -/
def Refuses (ev : Evaluator) (expression message : String) (suggestion : Option String) : Prop :=
  ∃ v, (ev.validate (.text expression)).reply = .answered v ∧ v.valid = false ∧
    v.error.getD "None" = message ∧ v.suggestions.head? = suggestion

/-- What is told of an expression that is refused. -/
def refusal (place message : String) (suggestion : Option String) : Issue :=
  .fail place ("Invalid JQ expression: " ++ message) suggestion

theorem refuses_of_expressionIssues {ev : Evaluator} {expression : String}
    (h : expressionIssues (some ev) place (.text expression) = .ok issues)
    (hi : refusal q message suggestion ∈ issues) : Refuses ev expression message suggestion := by
  unfold expressionIssues at h
  dsimp only at h
  split at h
  · cases h
  · rename_i v hv
    obtain rfl := Except.ok.inj h
    split at hi
    · cases hi
    · rename_i hinvalid
      have hissue := List.mem_singleton.1 hi
      simp only [refusal, Issue.fail, Issue.mk.injEq] at hissue
      have hmessage : message = v.error.getD "None" := by
        simpa [String.toList_inj] using congrArg String.toList hissue.2.1
      exact ⟨v, hv, by simpa using hinvalid, hmessage.symm, hissue.2.2.2.symm⟩

variable [Interpreter]

/-- An issue at a part of a rule is one of this rule. -/
theorem exists_ruleIssues_of_mem {rules : List Rule} {rep : Report}
    (h : report l ev rules = .ok rep) (hi : i ∈ rep.issues) (hcontext : i.context = some q)
    (hq : IsPartPlace (rulePlace n name) q) :
    ∃ r issues, rules[n]? = some r ∧ (rules.take n).length = n ∧
      ruleIssues l ev (rules.take n) r = .ok issues ∧ i ∈ issues := by
  rcases mem_report_cases h hi with hi | ⟨k, r, issues, hr, hk, hissues, hi⟩ | hi
  · rw [context_of_collectionIssues hi] at hcontext
    obtain rfl := Option.some.inj hcontext
    rcases hq with ⟨j, hq⟩ | hq
    · exact absurd hq.symm conditionPlace_ne_rules
    · exact absurd hq.symm transformPlace_ne_rules
  · obtain ⟨q', hq', hcontext'⟩ := context_of_ruleIssues hissues hi
    obtain rfl : q = q' := Option.some.inj (hcontext.symm.trans hcontext')
    have hkn : k = n := by
      by_contra hne
      rw [hk] at hq'
      rcases hq with ⟨j, hq⟩ | hq
      · exact hq'.ne_conditionPlace hne hq
      · exact hq'.ne_transformPlace hne hq
    subst hkn
    exact ⟨r, issues, hr, hk, hissues, hi⟩
  · obtain ⟨name', hname⟩ := context_of_shadowIssues hi
    obtain rfl := Option.some.inj (hcontext.symm.trans hname)
    rcases hq with ⟨j, hq⟩ | hq
    · exact absurd hq.symm conditionPlace_ne_quoted
    · exact absurd hq.symm transformPlace_ne_quoted

/-- Only an expression is refused. -/
theorem refuses_of_conditionIssues {ev : Evaluator} {c : Condition}
    (h : conditionIssues (some ev) place c = .ok issues)
    (hi : refusal q message suggestion ∈ issues) :
    ∃ e, c = .expression e ∧ Refuses ev e message suggestion := by
  cases c with
  | expression e => exact ⟨e, rfl, refuses_of_expressionIssues h hi⟩
  | field space path operator operand =>
    have hopen : opensWith "Invalid JQ expression: " (refusal q message suggestion) = true :=
      opensWith_append rfl
    have htable : ∀ words ∈ fieldOpenings,
        ¬"Invalid JQ expression: ".toList <+: words.toList ∧
          ¬words.toList <+: "Invalid JQ expression: ".toList := by decide
    obtain ⟨words, hwords, rest, hrest⟩ := exists_opening_of_fieldIssues h hi
    rw [opensWith_eq_false hrest (htable words hwords)] at hopen
    cases hopen

variable {rules : List Rule} {rep : Report} {ev : Evaluator}

/-- **A report that refuses a condition** means an expression that the evaluator refuses. -/
theorem refused_condition (h : report l (some ev) rules = .ok rep) (hr : rules[n]? = some r)
    (hi : refusal (conditionPlace (rulePlace n r.name) j) message suggestion ∈ rep.issues) :
    ∃ e, r.conditions[j]? = some (.expression e) ∧ Refuses ev e message suggestion := by
  obtain ⟨r', issues, hr', hn, hissues, hi⟩ := exists_ruleIssues_of_mem h hi rfl (.inl ⟨j, rfl⟩)
  obtain rfl : r = r' := Option.some.inj (hr.symm.trans hr')
  rcases mem_ruleIssues_cases hissues hi with
    hrule | ⟨k, c, found, hc, hcondition, hi⟩ | ⟨found, htransform, hi⟩
  · exact absurd (Option.some.inj hrule) conditionPlace_ne_rulePlace
  · have hcontext := context_of_conditionIssues hcondition hi
    obtain rfl := (conditionPlace_inj (Option.some.inj hcontext)).2
    obtain ⟨e, rfl, hrefuses⟩ := refuses_of_conditionIssues hcondition hi
    exact ⟨e, hc, hrefuses⟩
  · have hcontext := context_of_transformIssues htransform hi
    exact absurd (Option.some.inj hcontext) conditionPlace_ne_transformPlace

/-- **A report that refuses a transform** means an enabled one that the evaluator refuses. -/
theorem refused_transform (h : report l (some ev) rules = .ok rep) (hr : rules[n]? = some r)
    (hi : refusal (transformPlace (rulePlace n r.name)) message suggestion ∈ rep.issues) :
    ∃ t, r.transform = some t ∧ t.enabled = true ∧ Refuses ev t.expression message suggestion := by
  obtain ⟨r', issues, hr', hn, hissues, hi⟩ := exists_ruleIssues_of_mem h hi rfl (.inr rfl)
  obtain rfl : r = r' := Option.some.inj (hr.symm.trans hr')
  rcases mem_ruleIssues_cases hissues hi with
    hrule | ⟨k, c, found, -, hcondition, hi⟩ | ⟨found, htransform, hi⟩
  · exact absurd (Option.some.inj hrule) transformPlace_ne_rulePlace
  · have hcontext := context_of_conditionIssues hcondition hi
    exact absurd (Option.some.inj hcontext).symm conditionPlace_ne_transformPlace
  · unfold transformIssues at htransform
    split at htransform
    · rename_i t ht
      split at htransform
      · rename_i henabled
        exact ⟨t, ht, henabled, refuses_of_expressionIssues htransform hi⟩
      · cases htransform
        cases hi
    · cases htransform
      cases hi

end Places

end Lint

/-! ## What a run records -/

namespace Routing

/-- The text of the warning that an expression failed. -/
def failureText (expression message : String) : String :=
  "JQ condition '" ++ expression ++ "' failed: " ++ message

/-- A result records that the condition at a position of a rule, examined as one in turn, does not
hold because its expression failed. -/
structure RecordsFailure (res : RunResult) (k j : Nat) (r : Rule) (e message : String)
    (suggestion : Option String) : Prop where
  /-- The step of the rule has an entry for the condition that says so. -/
  entry : ∃ s x, res.trace[k]? = some s ∧ s.kind = .condition ∧ s.ruleName = some r.name ∧
    s.entries[j]? = some x ∧ x.target = some e ∧ x.matched = false ∧
    x.issue = some (failureText e message)
  /-- There is the warning. -/
  warning : Issue.warn Finding.place (failureText e message) suggestion ∈ res.issues

/-- A result records that the transform failed. -/
structure RecordsRefusal (res : RunResult) (message : String) (suggestion : Option String) :
    Prop where
  /-- No transform was applied. -/
  applied : res.transformApplied = false
  /-- There is no transformed payload. -/
  transformed : res.transformed = .null
  /-- There is the error. -/
  error : Issue.fail "JQ Transformation" (if message = "" then "Transform failed" else message)
    suggestion ∈ res.issues

theorem transformIssue_eq {o : Outcome} {message : String} (h : o.error = some message) :
    transformIssue o = .fail "JQ Transformation"
      (if message = "" then "Transform failed" else message) o.suggestions.head? := by
  unfold transformIssue
  rw [h]
  by_cases hempty : message = ""
  · subst hempty
    rfl
  · rw [if_neg hempty]
    split
    · rename_i hnone
      cases hnone
    · rename_i hsome
      exact absurd (Option.some.inj hsome) hempty
    · rename_i text hsome
      rw [Option.some.inj hsome]

variable [Interpreter] {ev : Evaluator} {rules : List Rule} {m : Message} {r : Rule} {k j : Nat}
  {e message : String}

/-- A run that examines a rule records the failure of an expression that fails on its payload. -/
theorem recordsFailure_of_failed {o : Outcome} (he : e ≠ "")
    (ho : (ev.evaluate (.text e) m.payload).reply = .answered o) (hfailed : o.success = false)
    (hmessage : o.error = some message) (hr : (examined (.constant ev) rules m)[k]? = some r)
    (hc : r.conditions[j]? = some (.expression e)) :
    RecordsFailure (route ev rules m).result k j r e message o.suggestions.head? := by
  have houtcome : Condition.ofOutcome e o = .warn (failureText e message) o.suggestions.head? := by
    rw [Condition.ofOutcome, hfailed, hmessage]
    rfl
  have hfinding : ((Condition.expression e).evaluate ev m).finding =
      .warn (failureText e message) o.suggestions.head? := by
    rw [Condition.evaluate_expression ev m he, ho, ← houtcome]
    rfl
  have hentry : (examine (atCandidate (.constant ev) rules k) m r).entries[j]? =
      some (entry j (.expression e) (.warn (failureText e message) o.suggestions.head?)) := by
    rw [getElem?_entries_examine, hc, Option.map_some, ← hfinding]
    rfl
  constructor
  · have hk : k < (conditionSteps (.constant ev) rules m).length := by
      rw [length_conditionSteps]
      exact (List.getElem?_eq_some_iff.1 hr).1
    refine ⟨ruleStep k r (examine (atCandidate (.constant ev) rules k) m r), _, ?_, rfl, rfl,
      hentry, rfl, rfl, rfl⟩
    rw [route, trace_routeAlong, List.getElem?_append_left hk, getElem?_conditionSteps, hr]
    rfl
  · have hcondition : Condition.expression e ∈
        (examined (.constant ev) rules m).flatMap (·.conditions) :=
      List.mem_flatMap.2 ⟨r, List.mem_of_getElem? hr, List.mem_of_getElem? hc⟩
    obtain ⟨n, hn⟩ := List.getElem?_of_mem hcondition
    have hmem : ((Condition.expression e).evaluate ev m).finding ∈
        findings (.constant ev) m ((examined (.constant ev) rules m).flatMap (·.conditions)) := by
      refine List.mem_of_getElem? (i := n) ?_
      rw [getElem?_findings, hn]
      rfl
    rw [route, issues_routeAlong]
    refine List.mem_append_left _ (List.mem_append_left _ (List.mem_filterMap.2 ⟨_, hmem, ?_⟩))
    rw [hfinding]
    rfl

/-- A run that finds a rule with a transform that fails on its payload records the failure. -/
theorem recordsRefusal_of_failed {o : Outcome} {t : Transform}
    (ho : (ev.evaluate (.text t.expression) m.payload).reply = .answered o)
    (hfailed : o.success = false) (hr : found (.constant ev) rules m = some r)
    (ht : r.transform = some t) (henabled : t.enabled = true) (hmessage : o.error = some message) :
    RecordsRefusal (route ev rules m).result message o.suggestions.head? := by
  have htried : tried (.constant ev) rules m =
      some (attempt ev (.text t.expression) m.payload) :=
    (tried_eq_some_iff (.constant ev) rules m).2 ⟨r, t, hr, ht, henabled, rfl⟩
  have houtcome := outcome_attempt_answered ho
  constructor
  · rw [route, transformApplied_routeAlong, htried, Option.any_some, houtcome, hfailed]
  · rw [route, transformed_routeAlong, htried, Option.filter_some, houtcome, hfailed]
    rfl
  · rw [route, issues_routeAlong, htried, Option.filter_some, houtcome, hfailed]
    refine List.mem_append_right _ ?_
    rw [Bool.not_false, if_pos rfl, Option.toList_some, List.map_singleton, houtcome,
      transformIssue_eq hmessage]
    exact List.mem_singleton_self _

end Routing

/-! ## The same report -/

namespace Query.Library

open Lint Routing

variable (lib : Library)

/-- An evaluation fails as the check of its expression says. -/
theorem evaluate_of_refuses {expression message : String} {suggestion : Option String}
    (h : Refuses lib.evaluator expression message suggestion) (input : Value) :
    ∃ o, (lib.evaluator.evaluate (.text expression) input).reply = .answered o ∧
      o.success = false ∧ o.error = some message ∧ o.suggestions.head? = suggestion := by
  obtain ⟨v, hv, hinvalid, hmessage, hsuggestion⟩ := h
  obtain ⟨error, herror⟩ := exists_error_of_invalid hv hinvalid
  rw [herror] at hmessage
  exact ⟨_, evaluate_of_invalid hv hinvalid input, rfl, herror.trans (congrArg some hmessage),
    hsuggestion⟩

section

variable [Interpreter]

/-- What a check of rules reports of expressions that cannot be compiled, the runs record: each run
of an evaluator that examines a rule with such a condition, and each that finds a rule with such a
transform, with the same error and the same suggestion. -/
structure ReportedAlike (ev : Evaluator) (rules : List Rule) (rep : Lint.Report) : Prop where
  /-- A condition that is refused does not hold in any run that examines its rule. -/
  condition : ∀ n j r message suggestion, rules[n]? = some r →
    refusal (conditionPlace (rulePlace n r.name) j) message suggestion ∈ rep.issues →
    ∃ e, r.conditions[j]? = some (.expression e) ∧
      ∀ (others : List Rule) (m : Message) (k : Nat),
        (examined (.constant ev) others m)[k]? = some r →
        RecordsFailure (route ev others m).result k j r e message suggestion
  /-- A transform that is refused is not applied in any run that finds its rule. -/
  transform : ∀ n r message suggestion, rules[n]? = some r →
    refusal (transformPlace (rulePlace n r.name)) message suggestion ∈ rep.issues →
    ∃ t, r.transform = some t ∧ t.enabled = true ∧
      ∀ (others : List Rule) (m : Message), found (.constant ev) others m = some r →
        RecordsRefusal (route ev others m).result message suggestion

theorem reportedAlike_report {l : Limits} {rules : List Rule} {rep : Lint.Report}
    (hformed : ∀ r ∈ rules, r.wellFormed = true)
    (h : report l (some lib.evaluator) rules = .ok rep) :
    ReportedAlike lib.evaluator rules rep := by
  constructor
  · intro n j r message suggestion hr hi
    obtain ⟨e, hc, hrefuses⟩ := refused_condition h hr hi
    have hwell := Rule.wellFormed_conditions (hformed r (List.mem_of_getElem? hr)) _
      (List.mem_of_getElem? hc)
    have he : e ≠ "" := by simpa [Condition.wellFormed] using hwell
    refine ⟨e, hc, fun others m k hk => ?_⟩
    obtain ⟨o, ho, hfailed, herror, rfl⟩ := lib.evaluate_of_refuses hrefuses m.payload
    exact recordsFailure_of_failed he ho hfailed herror hk hc
  · intro n r message suggestion hr hi
    obtain ⟨t, ht, henabled, hrefuses⟩ := refused_transform h hr hi
    refine ⟨t, ht, henabled, fun others m hfound => ?_⟩
    obtain ⟨o, ho, hfailed, herror, rfl⟩ := lib.evaluate_of_refuses hrefuses m.payload
    exact recordsRefusal_of_failed ho hfailed hfound ht henabled herror

/-- **A check of rules and the runs agree on what cannot be compiled.** An engine that keeps
programs answers as one that does not. An expression that it refuses, it evaluates on no input at
all, and says so with the same error and the same suggestions. What a check of rules with this
engine reports of the expressions of a rule, every run with it records, on any message. -/
theorem uncompiled_reported_alike (l : Limits) {rules : List Rule}
    (hformed : ∀ r ∈ rules, r.wellFormed = true) :
    (∀ (most : Nat) (questions : List Question),
      lib.answers most [] questions = questions.map (·.reply lib.evaluator)) ∧
    (∀ (expression : Value) (v : Verdict),
      (lib.evaluator.validate expression).reply = .answered v → v.valid = false →
      ∀ input, (lib.evaluator.evaluate expression input).reply =
        .answered (.failed v.error v.suggestions)) ∧
    ∀ rep, report l (some lib.evaluator) rules = .ok rep → ReportedAlike lib.evaluator rules rep :=
  ⟨fun most questions => lib.answers_eq most (by simp [Sound]) questions,
    fun _ _ hv hinvalid => evaluate_of_invalid hv hinvalid,
    fun _ => lib.reportedAlike_report hformed⟩

end

/-- A rule that asks for an expression that breaks off. -/
def asking : Rule where
  name := "asking"
  description := none
  enabled := true
  priority := 200
  conditions := [.expression ".["]
  combination := .all
  transform := none
  destination := "queue"

/-- A rule that is to rewrite with an expression that breaks off. -/
def breaking : Rule := { rewriting with transform := some ⟨true, ".["⟩ }

/-- What may help against an expression that breaks off. -/
def brackets : List String := [
  "Verify JQ syntax - common issues: missing pipes |, parentheses, or brackets",
  "Check for unmatched quotes or brackets"]

/-- What a check reports of the two rules. -/
def brokenReport : Lint.Report where
  errors := [
    refusal (conditionPlace (rulePlace 0 asking.name) 0) "syntax error" brackets.head?,
    refusal (transformPlace (rulePlace 1 breaking.name)) "syntax error" brackets.head?]
  warnings := []

section

open scoped Interpreter.Usual

theorem validate_broken :
    (standard.evaluator.validate (.text ".[")).reply =
      .answered ⟨false, some "syntax error", brackets⟩ := by
  have hread : read ".[".toList = .error (.malformed ".[") := by cbv
  have hreport : Report.ofDefect (.malformed ".[") = ⟨"syntax error", "syntax error\n.["⟩ := by
    decide +kernel
  have hsuggestions : Diagnosis.suggestions "syntax error\n.[" = brackets := by decide +kernel
  have hcompile : Query.compile true (.text ".[") =
      .error (.reported ⟨"syntax error", "syntax error\n.["⟩) := by
    rw [Query.compile, hread, ← hreport]
    rfl
  change verdict (Query.compile true (.text ".[")) = _
  rw [hcompile, ← hsuggestions]
  rfl

theorem candidates_broken : candidates [asking, breaking] = [asking, breaking] :=
  List.mergeSort_of_pairwise (by decide)

theorem report_broken :
    report .usual (some standard.evaluator) [asking, breaking] = .ok brokenReport := by
  have hrefused : ∀ place, expressionIssues (some standard.evaluator) place (.text ".[") =
      .ok [refusal place "syntax error" brackets.head?] := fun place => by
    rw [expressionIssues, validate_broken]
    rfl
  have heach : eachIssues .usual (some standard.evaluator) [] [asking, breaking] =
      .ok brokenReport.errors := by
    simp only [asking, breaking, rewriting, eachIssues, ruleIssues, ownIssues, conditionIssues,
      transformIssues, hrefused, List.zipIdx_cons, List.zipIdx_nil, List.mapM_cons, List.mapM_nil]
    rfl
  have hshadow : shadowIssues [asking, breaking] = [] := by
    rw [shadowIssues, shadowed, candidates_broken]
    rfl
  rw [report, heach, hshadow]
  rfl

theorem uncompiled_reported_alike_broken :
    report .usual (some standard.evaluator) [asking, breaking] = .ok brokenReport ∧
      RecordsFailure (route standard.evaluator [asking, breaking] Message.empty).result 0 0
        asking ".[" "syntax error" brackets.head? ∧
      RecordsRefusal (route standard.evaluator [asking, breaking] Message.empty).result
        "syntax error" brackets.head? := by
  have hformed : ∀ r ∈ [asking, breaking], r.wellFormed = true := by decide
  obtain ⟨-, hfails, halike⟩ := uncompiled_reported_alike standard .usual hformed
  have hcondition : ((Condition.expression ".[").evaluate standard.evaluator
      Message.empty).finding.matched = false := by
    rw [Condition.evaluate_expression _ _ (by decide), hfails _ _ validate_broken rfl]
    rfl
  have hasking : (examine (.constant standard.evaluator) Message.empty asking).matched =
      false := by
    simp [matched_examine, findings, asking, Combination.holds, Course.constant, hcondition]
  have hsearch : ∃ first second, search (.constant standard.evaluator) Message.empty
      (candidates [asking, breaking]) = ([(asking, first), (breaking, second)], some breaking) := by
    rw [candidates_broken, search, hasking]
    exact ⟨_, _, rfl⟩
  obtain ⟨first, second, hsearch⟩ := hsearch
  obtain ⟨e, he, hrecords⟩ := (halike _ report_broken).condition 0 0 asking _ _ rfl (.head _)
  obtain ⟨t, -, -, hrefuses⟩ :=
    (halike _ report_broken).transform 1 breaking _ _ rfl (.tail _ (.head _))
  cases he
  refine ⟨report_broken, hrecords _ _ 0 ?_, hrefuses _ _ ?_⟩
  · rw [examined, hsearch]
    rfl
  · rw [found, hsearch]

end

end Query.Library

end MessageRouting
