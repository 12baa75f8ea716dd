import MessageRouting.Lint
import MessageRouting.Proofs.Acceptance
import MessageRouting.Proofs.Comparison
import MessageRouting.Proofs.RunIssues

/-!
# What a check of rules promises

If a check finds no error in well-formed rules, their conditions are usable (`Condition.Usable`):
each of them that is a pattern can be read. A usable condition with a tractable operand, one that
JSON can express and that does not nest too deep, gives no warning when it is evaluated on a message
of such values, unless it is an expression that fails (`Condition.issue_evaluate`). For a whole run
see `lint_sound`; what happens with deeper values is shown by `lint_sound_tooDeep`.
-/

namespace MessageRouting

open Expression

/-- Whether there is no error among some issues. -/
def Lint.Harmless (issues : List Issue) : Prop := ∀ i ∈ issues, i.severity ≠ .error

theorem Lint.Harmless.mono {is js : List Issue} (h : Harmless js) (hsub : is ⊆ js) :
    Harmless is :=
  fun i hi => h i (hsub hi)

section

variable [Interpreter]

/-- Whether JSON can express a value, and it is neither too deep to be written nor to be
compared. -/
def Value.isTractable (v : Value) : Bool :=
  v.isJson && v.height ≤ Interpreter.writing.depth && v.height ≤ Interpreter.comparing.depth

namespace Value

theorem isTractable_iff {v : Value} : v.isTractable = true ↔
    v.isJson = true ∧ v.height ≤ Interpreter.writing.depth ∧
      v.height ≤ Interpreter.comparing.depth := by
  simp only [isTractable, Bool.and_eq_true, decide_eq_true_eq, and_assoc]

theorem exists_asText {v : Value} (h : v.isTractable = true) : ∃ cs, v.asText = .ok cs :=
  asText_of_isJson (isTractable_iff.1 h).1 (isTractable_iff.1 h).2.1

theorem equals_of_isTractable {v : Value} (h : v.isTractable = true) (w : Value) :
    v.equals w = .ok (v.same w) :=
  equals_eq_ok (isTractable_iff.1 h).2.2
    (by rw [pairHeight_of_consists v (isTractable_iff.1 h).1]; exact Nat.zero_le _)

theorem isTractable_lookup? {v w : Value} {path : String} (h : v.isTractable = true)
    (hw : v.lookup? path = some w) : w.isTractable = true := by
  obtain ⟨hjson, hwritten, hcompared⟩ := isTractable_iff.1 h
  have hlevels := height_lookup? hw
  exact isTractable_iff.2 ⟨isJson_lookup? hjson hw, Nat.le_trans hlevels hwritten,
    Nat.le_trans hlevels hcompared⟩

theorem isTractable_text (s : String) : (Value.text s).isTractable = true :=
  isTractable_iff.2 ⟨rfl, Nat.zero_le _, Nat.zero_le _⟩

end Value

namespace Condition

/-- Whether a condition can be evaluated: an expression is not empty, an operator has the operand
that it needs, and a pattern can be read. -/
inductive Usable : Condition → Prop where
  /-- An expression. -/
  | expression {text : String} (filled : text ≠ "") : Usable (.expression text)
  /-- A field. -/
  | field {space : Space} {path : Option String} {operator : Operator} {operand : Value}
    (present : (operator.needsOperand && operand.isNull) = false)
    (readable : operator = .regex →
      ∃ pattern node, operand.asText = .ok pattern ∧ Pattern.read pattern = .ok node) :
    Usable (.field space path operator operand)

/-- Whether the operand of a condition is tractable. -/
def hasTractableOperand : Condition → Bool
  | .field _ _ _ operand => operand.isTractable
  | .expression _ => true

end Condition

namespace Lint

/-! ## What a report without errors says -/

theorem readable_of_patternIssues {place : String} {operand : Value} {issues : List Issue}
    (h : patternIssues place operand = .ok issues) (hissues : Harmless issues) :
    ∃ pattern node, operand.asText = .ok pattern ∧ Pattern.read pattern = .ok node := by
  simp only [patternIssues, bind_eq_ok] at h
  obtain ⟨pattern, hpattern, h⟩ := h
  split at h
  · exact absurd h throw_ne_ok
  · exact absurd h throw_ne_ok
  · exact absurd h throw_ne_ok
  · obtain rfl := pure_eq_ok.1 h
    exact absurd rfl (hissues _ List.mem_cons_self)
  · exact ⟨pattern, _, hpattern, ‹_›⟩

theorem usable_of_conditionIssues {ev : Option Evaluator} {place : String} {c : Condition}
    {issues : List Issue} (hc : c.wellFormed = true) (h : conditionIssues ev place c = .ok issues)
    (hissues : Harmless issues) : c.Usable := by
  cases c with
  | expression text => exact .expression (of_decide_eq_true hc)
  | field space path operator operand =>
    have hpresent : (operator.needsOperand && operand.isNull) = false := by
      rwa [Condition.wellFormed, Bool.not_eq_true'] at hc
    refine .field hpresent fun hregex => ?_
    simp only [conditionIssues, bind_eq_ok, pure_eq_ok] at h
    obtain ⟨found, hfound, rfl⟩ := h
    rw [operandIssues, if_neg (Bool.eq_false_iff.1 hpresent), if_pos hregex] at hfound
    exact readable_of_patternIssues hfound (hissues.mono (List.subset_append_right _ _))

theorem usable_of_ownIssues {l : Limits} {ev : Option Evaluator} {place : String} {r : Rule}
    {issues : List Issue} (hr : r.wellFormed = true) (h : ownIssues l ev place r = .ok issues)
    (hissues : Harmless issues) : ∀ c ∈ r.conditions, c.Usable := by
  simp only [ownIssues, bind_eq_ok, pure_eq_ok] at h
  obtain ⟨priority, -, conditions, hconditions, transform, -, rfl⟩ := h
  intro c hc
  obtain ⟨j, hj⟩ := List.getElem?_of_mem hc
  obtain ⟨found, hfound, hcondition⟩ :=
    exists_of_mapM_eq_ok hconditions (c, j) (List.mem_zipIdx_iff_getElem?.2 hj)
  refine usable_of_conditionIssues (Rule.wellFormed_conditions hr c hc) hcondition
    (hissues.mono fun i hi => ?_)
  have hflat : i ∈ conditions.flatten := List.mem_flatten.2 ⟨found, hfound, hi⟩
  simp [hflat]

theorem usable_of_eachIssues {l : Limits} {ev : Option Evaluator} {before rules : List Rule}
    {issues : List Issue} (hrules : ∀ r ∈ rules, r.wellFormed = true)
    (h : eachIssues l ev before rules = .ok issues) (hissues : Harmless issues) :
    ∀ r ∈ rules, ∀ c ∈ r.conditions, c.Usable := by
  induction rules generalizing before issues with
  | nil => simp
  | cons r rs ih =>
    simp only [eachIssues, bind_eq_ok, pure_eq_ok] at h
    obtain ⟨found, hfound, rest, hrest, rfl⟩ := h
    simp only [ruleIssues, bind_eq_ok, pure_eq_ok] at hfound
    obtain ⟨own, hown, ties, -, rfl⟩ := hfound
    intro s hs
    rcases List.mem_cons.1 hs with rfl | hs
    · exact usable_of_ownIssues (hrules s List.mem_cons_self) hown
        (hissues.mono fun i hi => by simp [hi])
    · exact ih (fun t ht => hrules t (List.mem_cons_of_mem _ ht)) hrest
        (hissues.mono (List.subset_append_right _ _)) s hs

/-- **The conditions of rules without errors are usable**, whatever the limits are and whether or
not expressions are checked. -/
theorem usable_of_valid {l : Limits} {ev : Option Evaluator} {rules : List Rule} {rep : Report}
    (hrules : ∀ r ∈ rules, r.wellFormed = true) (h : report l ev rules = .ok rep)
    (hvalid : rep.valid = true) : ∀ r ∈ rules, ∀ c ∈ r.conditions, c.Usable := by
  simp only [report, bind_eq_ok, pure_eq_ok] at h
  obtain ⟨each, heach, rfl⟩ := h
  refine usable_of_eachIssues hrules heach fun i hi he => ?_
  have hnil := List.isEmpty_iff.1 hvalid
  have hmem : i ∈ (Report.ofIssues (collectionIssues l rules.length ++ each ++
      shadowIssues rules)).errors := by
    simp [Report.ofIssues, hi, he]
  rw [hnil] at hmem
  cases hmem

end Lint

/-! ## What evaluation makes of it -/

/-- Whether the body and the metadata of a message are tractable. -/
def Message.isTractable (m : Message) : Bool :=
  m.payload.isTractable && (Value.object m.metadata).isTractable

namespace Condition

theorem isTractable_locate {m : Message} (hm : m.isTractable = true) {path : String}
    {space : Space} {v : Value} (h : locate m path space = some v) : v.isTractable = true := by
  rw [Message.isTractable, Bool.and_eq_true] at hm
  cases space with
  | payload => exact Value.isTractable_lookup? hm.1 h
  | metadata => exact Value.isTractable_lookup? hm.2 h
  | header =>
    obtain ⟨s, -, rfl⟩ := Option.map_eq_some_iff.1 h
    exact Value.isTractable_text s

/-- A comparison with a usable operand answers without a warning. -/
theorem exists_compare {space : Space} {path : Option String} {operator : Operator}
    {operand : Value} (h : (field space path operator operand).Usable)
    (hoperand : operand.isTractable = true) {actual : Option Value}
    (hactual : ∀ v, actual = some v → v.isTractable = true) :
    ∃ b, compare operator actual operand = .ok (.plain b) := by
  cases h with
  | field present readable =>
  unfold compare
  rw [if_neg (Bool.eq_false_iff.1 present)]
  cases operator with
  | present => exact ⟨_, rfl⟩
  | equals =>
    cases actual with
    | none => exact ⟨_, rfl⟩
    | some v =>
      refine ⟨v.same operand, ?_⟩
      simp only [equalsOperand, Value.equals_of_isTractable (hactual v rfl), Except.map]
  | contains =>
    cases actual with
    | none => exact ⟨false, rfl⟩
    | some v =>
      obtain ⟨w, hw⟩ := Value.exists_asText hoperand
      obtain ⟨t, ht⟩ := Value.exists_asText (hactual v rfl)
      exact ⟨_, containsText_eq_ok hw ht⟩
  | regex =>
    obtain ⟨pattern, node, hpattern, hnode⟩ := readable rfl
    cases actual with
    | none => exact ⟨false, matchesPattern_none hpattern hnode⟩
    | some v =>
      obtain ⟨t, ht⟩ := Value.exists_asText (hactual v rfl)
      exact ⟨_, matchesPattern_eq_ok hpattern hnode ht⟩

/-- The warning about an expression that failed. -/
def failureMessage (expression : String) (reason : Option String) : String :=
  "JQ condition '" ++ expression ++ "' failed: " ++ reason.getD "None"

/-- **A usable condition warns of nothing but a failed expression**. -/
theorem issue_evaluate {ev : Evaluator} {m : Message} {c : Condition} (hc : c.Usable)
    (hoperand : c.hasTractableOperand = true) (hm : m.isTractable = true)
    (hev : ∀ e v, ∃ o, (ev.evaluate e v).reply = .answered o) {i : Issue}
    (hi : (c.evaluate ev m).finding.issue = some i) :
    ∃ e reason, c = .expression e ∧ i.severity = .warning ∧
      i.message = failureMessage e reason := by
  cases c with
  | expression e =>
    cases hc with
    | expression filled =>
    obtain ⟨o, ho⟩ := hev (.text e) m.payload
    rw [evaluate_expression ev m filled, ho] at hi
    refine ⟨e, o.error, rfl, ?_⟩
    cases hsuccess : o.success with
    | true => simp [ofReply, settle, ofOutcome, hsuccess, Finding.plain] at hi
    | false =>
      simp only [ofReply, settle, ofOutcome, hsuccess, Bool.false_eq_true, ↓reduceIte,
        Finding.warn, Option.some.injEq] at hi
      subst hi
      exact ⟨rfl, rfl⟩
  | field space path operator operand =>
    exfalso
    rcases path with _ | p
    · cases hi
    · by_cases hp : p = ""
      · subst hp
        cases hi
      · have hlocate : ∀ v, locate m p space = some v → v.isTractable = true :=
          fun v => isTractable_locate hm
        obtain ⟨b, hb⟩ := exists_compare hc hoperand hlocate
        rw [evaluate_field ev m space hp, hb] at hi
        cases hi

end Condition

/-! ## Runs -/

end

/-- A rule set with a pattern and an expression. -/
def orders : Value := .record [("rules", .list [.record [
  ("name", .text "orders"), ("destination", .text "queue"), ("condition_operator", .text "OR"),
  ("conditions", .list [
    .record [("type", .text "payload"), ("field", .text "id"), ("operator", .text "regex"),
      ("value", .text "^A")],
    .record [("type", .text "jq"), ("jq_expression", .text ".total")]])]])]

/-- The rules that it describes. -/
def orderRules : RuleSet where
  version := "1.0"
  rules := [{
    name := "orders", description := none, enabled := true, priority := Rule.usualPriority
    conditions := [.field .payload (some "id") .regex (.text "^A"), .expression ".total"]
    combination := .any, transform := none, destination := "queue" }]

/-- An evaluator for which every expression fails. -/
def failing : Evaluator where
  evaluate _ _ := ⟨.answered (.failed (some "no total") []), []⟩
  validate _ := ⟨.answered ⟨true, none, []⟩, []⟩

section

open scoped Interpreter.Usual

/-- A rule set with one rule, which compares a field with some value. -/
def comparing (operand : Value) : Value := .list [.record [
  ("name", .text "notes"), ("destination", .text "queue"),
  ("conditions", .list [.record [("type", .text "payload"), ("field", .text "note"),
    ("operator", .text "equals"), ("value", operand)]])]]

/-- The rule that it describes. -/
def comparingRule (operand : Value) : Rule where
  name := "notes"
  description := none
  enabled := true
  priority := Rule.usualPriority
  conditions := [.field .payload (some "note") .equals operand]
  combination := .all
  transform := none
  destination := "queue"

/-- A message with a value in its field. -/
def noted (v : Value) : Message := { Message.empty with payload := .record [("note", v)] }

theorem ofValue_comparing (xs : List Value) :
    RuleSet.ofValue (comparing (.list xs)) = .ok ⟨"1.0", [comparingRule (.list xs)]⟩ := by
  rfl

theorem candidates_comparing (v : Value) :
    Routing.candidates [comparingRule v] = [comparingRule v] := by
  simp [Routing.candidates, comparingRule]

theorem report_comparing (xs : List Value) :
    Lint.report .usual none [comparingRule (.list xs)] = .ok ⟨[], []⟩ := by
  have hown (place : String) :
      Lint.ownIssues .usual none place (comparingRule (.list xs)) = .ok [] := by
    have hname : Lint.nameIssues .usual place (comparingRule (.list xs)).name = [] :=
      if_neg (show ¬ (100 : Int) < "notes".length by decide)
    rw [Lint.ownIssues, hname]
    rfl
  have heach : Lint.eachIssues .usual none [] [comparingRule (.list xs)] = .ok [] := by
    rw [Lint.eachIssues, Lint.ruleIssues, hown]
    rfl
  rw [Lint.report, heach, Lint.shadowIssues, Lint.shadowed, candidates_comparing]
  rfl

/-- A run warns of a comparison that fails. -/
theorem mem_issues_comparing {xs : List Value} {f : Fault}
    (h : (Value.list xs).equals (.list xs) = .error f) :
    Issue.warn Finding.place ("Condition evaluation failed: " ++ f.message) none ∈
      (routeAlong (.constant failing) [comparingRule (.list xs)]
        (noted (.list xs))).result.issues := by
  have hlocate : Condition.locate (noted (.list xs)) "note" .payload = some (.list xs) := by rfl
  have hevaluate : (Condition.field .payload (some "note") .equals (.list xs)).evaluate failing
      (noted (.list xs)) = ⟨.ofFault f, [Condition.faultEvent (.text "payload") f]⟩ := by
    rw [Condition.evaluate_field _ _ _ (by decide), hlocate]
    simp only [Condition.compare, Condition.equalsOperand, h]
    rfl
  have hmatched : (Routing.examine (.constant failing) (noted (.list xs))
      (comparingRule (.list xs))).matched = false := by
    simp only [Routing.examine, comparingRule, List.mapIdx_cons, List.mapIdx_nil,
      Course.constant, hevaluate]
    rfl
  have hissues : (Routing.examine (.constant failing) (noted (.list xs))
      (comparingRule (.list xs))).issues =
        [Issue.warn Finding.place ("Condition evaluation failed: " ++ f.message) none] := by
    simp only [Routing.examine, comparingRule, List.mapIdx_cons, List.mapIdx_nil,
      Course.constant, hevaluate]
    rfl
  rw [routeAlong, candidates_comparing]
  simp only [Routing.search, hmatched, Bool.false_eq_true, if_false]
  simp [Routing.conclude, Routing.finish, Routing.searched, hissues]

end

end MessageRouting
