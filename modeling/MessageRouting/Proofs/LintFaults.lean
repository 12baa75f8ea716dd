import MessageRouting.Proofs.LintSoundness
import MessageRouting.Proofs.Literals
import MessageRouting.RuleSet.File

/-!
# What keeps a check of rules from a report

Loaded rules are well formed (`RuleSet.Loaded.wellFormed`). A check of well-formed rules gives a
report unless something keeps it from one (`Lint.Aborts`): a pattern that cannot be rendered, one
of three faults of patterns that are not errors of the syntax, or a priority of too many digits.
What it fails with is such a fault (`Lint.aborts_of_report`), and each of them makes it fail
(`Lint.not_aborts_of_report`).
-/

namespace MessageRouting

open Expression

section

variable [Interpreter]

/-- A rule set as it is loaded. -/
inductive RuleSet.Loaded (set : RuleSet) : Prop where
  /-- From data. -/
  | value {data : Value} (accepted : RuleSet.ofValue data = .ok set)
  /-- From a file. -/
  | file {name : String} {content : FileContent} (accepted : RuleSet.ofFile name content = .ok set)

/-- A file that holds a rule set holds data that describes it. -/
theorem RuleSet.exists_ofValue_of_ofFile {name : String} {content : FileContent} {set : RuleSet}
    (h : ofFile name content = .ok set) : ∃ v, ofValue v = .ok set := by
  cases content with
  | missing => cases h
  | refused => cases h
  | bytes data =>
    dsimp only [ofFile] at h
    split at h
    · cases h
    · split at h
      · cases h
      · rename_i v hv
        exact ⟨v, mapError_eq_ok.1 h⟩

/-- The rules of a loaded rule set are well formed. -/
theorem RuleSet.Loaded.wellFormed {set : RuleSet} (h : set.Loaded) :
    ∀ r ∈ set.rules, r.wellFormed = true := by
  cases h with
  | value accepted => exact wellFormed_of_ofValue accepted
  | file accepted =>
    obtain ⟨v, hv⟩ := exists_ofValue_of_ofFile accepted
    exact wellFormed_of_ofValue hv

/-- The fault of a pattern that keeps a check from a report: the operand has no text, or reading it
fails in one of three ways that are not errors of the syntax. -/
inductive Condition.Aborts : Condition → Fault → Prop where
  /-- An integer in the operand has too many digits, a name in it is a date or bytes, or it nests
  too deep. -/
  | rendering {space : Space} {path : Option String} {operand : Value} {f : Fault}
      (unrenderable : operand.isRenderable = false) (unrendered : operand.asText = .error f) :
      Aborts (.field space path .regex operand) f
  /-- It repeats too often. -/
  | repetition {space : Space} {path : Option String} {operand : Value} {pattern : List Char}
      (rendered : operand.asText = .ok pattern)
      (unread : Pattern.read pattern = .error .repetitionCount) :
      Aborts (.field space path .regex operand) .repetitionCount
  /-- Its flags exclude each other. -/
  | flags {space : Space} {path : Option String} {operand : Value} {pattern : List Char}
      (rendered : operand.asText = .ok pattern)
      (unread : Pattern.read pattern = .error .flagConflict) :
      Aborts (.field space path .regex operand) .flagConflict
  /-- Its groups nest too deep. -/
  | groups {space : Space} {path : Option String} {operand : Value} {pattern : List Char}
      (rendered : operand.asText = .ok pattern)
      (unread : Pattern.read pattern = .error .tooDeep) :
      Aborts (.field space path .regex operand) Interpreter.grouping.fault

end

namespace Lint

/-- Whether a check can write all that it has to say about the range of a priority. -/
def rangeWritable (l : Limits) (r : Rule) : Bool :=
  (l.minPriority ≤ r.priority && r.priority ≤ l.maxPriority) ||
    ((Scalar.int r.priority).isWritable && ((Scalar.int l.minPriority).isWritable &&
      (Scalar.int l.maxPriority).isWritable))

/-- Whether a check can write all that it has to say about the ties of a rule with earlier ones. -/
def tieWritable (earlier : List Rule) (r : Rule) : Bool :=
  (tied? earlier r).isNone || (Scalar.int r.priority).isWritable

/-- What keeps a check from a report. -/
inductive Aborts [Interpreter] (l : Limits) (rules : List Rule) : Fault → Prop where
  /-- The pattern of a condition. -/
  | condition {r : Rule} {c : Condition} {f : Fault} (rule : r ∈ rules)
      (condition : c ∈ r.conditions) (aborts : c.Aborts f) : Aborts l rules f
  /-- The digits of a priority that is not recommended, or of the limits. -/
  | range {r : Rule} (rule : r ∈ rules) (long : rangeWritable l r = false) :
      Aborts l rules .digitLimit
  /-- The digits of the priority of a rule that ties with an earlier one. -/
  | tie {n : Nat} {r : Rule} (rule : rules[n]? = some r)
      (long : tieWritable (rules.take n) r = false) : Aborts l rules .digitLimit

/-! ## What has no report -/

/-- Whether the checks of an evaluator always answer. -/
def Answers (ev : Option Evaluator) : Prop :=
  ∀ e, ev = some e → ∀ x, ∃ v, (e.validate x).reply = .answered v

theorem expressionIssues_ne_error {ev : Option Evaluator} {place : String} {f : Fault}
    (hev : Answers ev) {expression : Value} : expressionIssues ev place expression ≠ .error f := by
  intro h
  cases ev with
  | none => cases h
  | some e =>
    obtain ⟨v, hv⟩ := hev e rfl expression
    simp only [expressionIssues, hv] at h
    cases h

theorem writtenIf_integer (n : Int) :
    WrittenIf Fault.IsLength ((Scalar.int n).isWritable = true) (integer n) := by
  have h : integer n = (Literal.integer n >>= fun cs => pure (String.ofList cs)) := by
    unfold integer
    cases Literal.integer n <;> rfl
  rw [h]
  exact (Literal.writtenIf_integer n).bind_pure

theorem writtenIf_outsideIssue (l : Limits) (place priority : String) :
    WrittenIf Fault.IsLength
      ((Scalar.int l.minPriority).isWritable = true ∧ (Scalar.int l.maxPriority).isWritable = true)
      (outsideIssue l place priority) :=
  (writtenIf_integer _).bind fun _ => (writtenIf_integer _).bind_pure

theorem writtenIf_priorityIssues (l : Limits) (place : String) (r : Rule) :
    WrittenIf Fault.IsLength (rangeWritable l r = true) (priorityIssues l place r) := by
  unfold priorityIssues rangeWritable
  cases l.minPriority ≤ r.priority && r.priority ≤ l.maxPriority with
  | true => exact .ok rfl []
  | false =>
    refine ((writtenIf_integer _).bind fun _ =>
      (writtenIf_outsideIssue l place _).bind_pure).congr ?_
    rw [Bool.false_or, Bool.and_eq_true, Bool.and_eq_true]

theorem writtenIf_tieIssues (place : String) (earlier : List Rule) (r : Rule) :
    WrittenIf Fault.IsLength (tieWritable earlier r = true) (tieIssues place earlier r) := by
  unfold tieIssues tieWritable
  cases tied? earlier r with
  | none => exact .ok rfl []
  | some b => exact (writtenIf_integer _).bind_pure

theorem transformIssues_ne_error {ev : Option Evaluator} {place : String} {r : Rule} {f : Fault}
    (hev : Answers ev) : transformIssues ev place r ≠ .error f := by
  unfold transformIssues
  split
  · split
    · exact expressionIssues_ne_error hev
    · exact fun h => nomatch h
  · exact fun h => nomatch h

section Faults

variable [Interpreter] {l : Limits} {ev : Option Evaluator} {place : String} {r : Rule} {f : Fault}

theorem patternIssues_eq_error_iff {space : Space} {path : Option String} {operand : Value} :
    patternIssues place operand = .error f ↔
      (Condition.field space path .regex operand).Aborts f := by
  constructor
  · intro h
    simp only [patternIssues, bind_eq_error] at h
    rcases h with h | ⟨pattern, hpattern, h⟩
    · exact .rendering (Bool.eq_false_iff.2 (operand.writtenIf_asText.of_error h).1) h
    · split at h
      · obtain rfl := throw_eq_error.1 h
        exact .repetition hpattern ‹_›
      · obtain rfl := throw_eq_error.1 h
        exact .flags hpattern ‹_›
      · obtain rfl := throw_eq_error.1 h
        exact .groups hpattern ‹_›
      · exact absurd h pure_ne_error
      · exact absurd h pure_ne_error
  · intro h
    cases h with
    | rendering _ unrendered => exact bind_eq_error.2 (.inl unrendered)
    | repetition rendered unread =>
      refine bind_eq_error.2 (.inr ⟨_, rendered, ?_⟩)
      rw [unread]
      rfl
    | flags rendered unread =>
      refine bind_eq_error.2 (.inr ⟨_, rendered, ?_⟩)
      rw [unread]
      rfl
    | groups rendered unread =>
      refine bind_eq_error.2 (.inr ⟨_, rendered, ?_⟩)
      rw [unread]
      rfl

theorem conditionIssues_eq_error_iff (hev : Answers ev) {c : Condition}
    (hc : c.wellFormed = true) : conditionIssues ev place c = .error f ↔ c.Aborts f := by
  cases c with
  | expression text =>
    exact iff_of_false (expressionIssues_ne_error hev) fun h => nomatch h
  | field space path operator operand =>
    have hpresent : ¬(operator.needsOperand && operand.isNull) = true := by
      rwa [Condition.wellFormed, Bool.not_eq_true', ← Bool.not_eq_true] at hc
    simp only [conditionIssues, bind_eq_error, pure_ne_error, and_false, exists_false, or_false,
      operandIssues, if_neg hpresent]
    by_cases hregex : operator = .regex
    · subst hregex
      rw [if_pos rfl, patternIssues_eq_error_iff]
    · rw [if_neg hregex]
      refine iff_of_false (fun h => ?_) fun h => ?_
      · cases h
      · cases h <;> exact hregex rfl

/-- What keeps a check from a report in the part of it that is about one rule. -/
theorem aborts_of_ruleIssues (hev : Answers ev) {rules : List Rule} {n : Nat}
    (hr : rules[n]? = some r) (hwell : r.wellFormed = true)
    (h : ruleIssues l ev (rules.take n) r = .error f) : Aborts l rules f := by
  have hmem := List.mem_of_getElem? hr
  simp only [ruleIssues, bind_eq_error, pure_ne_error, and_false, exists_false, or_false] at h
  rcases h with h | ⟨own, -, h⟩
  · simp only [ownIssues, bind_eq_error, pure_ne_error, and_false, exists_false, or_false] at h
    rcases h with h | ⟨priority, -, h | ⟨conditions, -, h⟩⟩
    · obtain ⟨rfl, hlong⟩ := (writtenIf_priorityIssues l _ r).error_iff.1 h
      exact .range hmem (Bool.eq_false_iff.2 hlong)
    · obtain ⟨⟨c, j⟩, hc, h⟩ := exists_of_mapM_eq_error h
      have hcondition := List.mem_of_getElem? (List.mem_zipIdx_iff_getElem?.1 hc)
      refine .condition hmem hcondition ((conditionIssues_eq_error_iff hev ?_).1 h)
      exact Rule.wellFormed_conditions hwell c hcondition
    · exact absurd h (transformIssues_ne_error hev)
  · obtain ⟨rfl, hlong⟩ := (writtenIf_tieIssues _ _ r).error_iff.1 h
    exact .tie hr (Bool.eq_false_iff.2 hlong)

/-- A fault in the checks of rules, one after the other, is one in the check of one of them. -/
theorem exists_of_eachIssues_eq_error {before rules : List Rule}
    (h : eachIssues l ev before rules = .error f) :
    ∃ n r, rules[n]? = some r ∧ ruleIssues l ev (before ++ rules.take n) r = .error f := by
  induction rules generalizing before with
  | nil => cases h
  | cons r rules ih =>
    simp only [eachIssues, bind_eq_error, pure_ne_error, and_false, exists_false, or_false] at h
    rcases h with h | ⟨found, -, h⟩
    · exact ⟨0, r, rfl, by rwa [List.take_zero, List.append_nil]⟩
    · obtain ⟨n, s, hs, hissues⟩ := ih h
      refine ⟨n + 1, s, hs, ?_⟩
      rwa [List.take_succ_cons, List.append_cons]

end Faults

/-! ## What makes up a report -/

section Reports

/-- The results of steps that may fail, each in the place of its element. -/
def Aligned {ε α β : Type} (g : Nat → α → Except ε β) (xs : List α) (ys : List β) : Prop :=
  ∀ i : Nat, ys[i]?.map .ok = xs[i]?.map (g i)

namespace Aligned

variable {ε α β : Type} {xs : List α} {ys : List β} {i : Nat}

theorem exists_result {g : Nat → α → Except ε β} (h : Aligned g xs ys) {x : α}
    (hx : xs[i]? = some x) : ∃ y, ys[i]? = some y ∧ g i x = .ok y := by
  have hi := h i
  rw [hx, Option.map_some, Option.map_eq_some_iff] at hi
  obtain ⟨y, hy, hg⟩ := hi
  exact ⟨y, hy, hg.symm⟩

theorem exists_source {g : Nat → α → Except ε β} (h : Aligned g xs ys) {y : β}
    (hy : ys[i]? = some y) : ∃ x, xs[i]? = some x ∧ g i x = .ok y := by
  have hi := (h i).symm
  rw [hy, Option.map_some, Option.map_eq_some_iff] at hi
  exact hi

theorem cons {g : Nat → α → Except ε β} {x : α} {y : β} (hg : g 0 x = .ok y)
    (h : Aligned (fun i => g (i + 1)) xs ys) : Aligned g (x :: xs) (y :: ys) := by
  intro i
  cases i with
  | zero => exact congrArg some hg.symm
  | succ i => exact h i

theorem of_mapM {g : α → Except ε β} (h : xs.mapM g = .ok ys) : Aligned (fun _ => g) xs ys := by
  induction xs generalizing ys with
  | nil =>
    obtain rfl := pure_eq_ok.1 h
    exact fun _ => rfl
  | cons x xs ih =>
    simp only [List.mapM_cons, bind_eq_ok, pure_eq_ok] at h
    obtain ⟨y, hy, rest, hrest, rfl⟩ := h
    exact .cons hy (ih hrest)

/-- A step that reads the index of its element. -/
theorem of_zipIdx_mapM {g : α × Nat → Except ε β} (h : xs.zipIdx.mapM g = .ok ys) :
    Aligned (fun i x => g (x, i)) xs ys := by
  intro i
  have hi := of_mapM h i
  rwa [List.getElem?_zipIdx, Option.map_map, Nat.zero_add] at hi

end Aligned

variable [Interpreter] {l : Limits} {ev : Option Evaluator} {place : String} {r : Rule}

/-- The issues of rules are the parts that the single rules give. -/
theorem exists_parts_of_eachIssues {before rules : List Rule} {issues : List Issue}
    (h : eachIssues l ev before rules = .ok issues) :
    ∃ parts : List (List Issue), issues = parts.flatten ∧
      Aligned (fun n r => ruleIssues l ev (before ++ rules.take n) r) rules parts := by
  induction rules generalizing before issues with
  | nil =>
    obtain rfl := Except.ok.inj h
    exact ⟨[], rfl, fun _ => rfl⟩
  | cons r rules ih =>
    simp only [eachIssues, bind_eq_ok, pure_eq_ok] at h
    obtain ⟨found, hfound, rest, hrest, rfl⟩ := h
    obtain ⟨parts, rfl, hparts⟩ := ih hrest
    refine ⟨found :: parts, rfl, .cons ?_ ?_⟩
    · rwa [List.take_zero, List.append_nil]
    · simpa only [List.take_succ_cons, List.append_assoc, List.singleton_append] using hparts

/-- The part at a position comes from the rule there. -/
theorem exists_rule_of_part {rules : List Rule} {parts : List (List Issue)}
    (h : Aligned (fun n r => ruleIssues l ev (rules.take n) r) rules parts) {n : Nat}
    {part : List Issue} (hpart : parts[n]? = some part) :
    ∃ r, rules[n]? = some r ∧ (rules.take n).length = n ∧
      ruleIssues l ev (rules.take n) r = .ok part := by
  obtain ⟨r, hr, hissues⟩ := h.exists_source hpart
  have hn : n ≤ rules.length := Nat.le_of_lt (List.getElem?_eq_some_iff.1 hr).1
  exact ⟨r, hr, by rw [List.length_take, Nat.min_eq_left hn], hissues⟩

/-- The issues of a rule, part by part. -/
theorem ruleIssues_eq_ok {earlier : List Rule} {issues : List Issue}
    (h : ruleIssues l ev earlier r = .ok issues) :
    ∃ priority conditions transform ties,
      priorityIssues l (rulePlace earlier.length r.name) r = .ok priority ∧
      Aligned (fun j c => conditionIssues ev (conditionPlace (rulePlace earlier.length r.name) j) c)
        r.conditions conditions ∧
      transformIssues ev (rulePlace earlier.length r.name) r = .ok transform ∧
      tieIssues (rulePlace earlier.length r.name) earlier r = .ok ties ∧
      issues = duplicateIssues (rulePlace earlier.length r.name) (earlier.map (·.name)) r.name ++
        (nameIssues l (rulePlace earlier.length r.name) r.name ++
          countIssues l (rulePlace earlier.length r.name) r.conditions.length ++ priority ++
          conditions.flatten ++ transform) ++ ties := by
  simp only [ruleIssues, ownIssues, bind_eq_ok, pure_eq_ok] at h
  obtain ⟨own, ⟨priority, hpriority, conditions, hconditions, transform, htransform, rfl⟩, ties,
    hties, rfl⟩ := h
  exact ⟨priority, conditions, transform, ties, hpriority, .of_zipIdx_mapM hconditions, htransform,
    hties, rfl⟩

/-- Nothing keeps a check from a report that it gives. -/
theorem not_aborts_of_report (hev : Answers ev) {rules : List Rule} {rep : Report}
    (hwell : ∀ r ∈ rules, r.wellFormed = true) (h : report l ev rules = .ok rep) (f : Fault) :
    ¬ Aborts l rules f := by
  intro haborts
  simp only [report, bind_eq_ok] at h
  obtain ⟨each, heach, -⟩ := h
  obtain ⟨parts, -, hparts⟩ := exists_parts_of_eachIssues heach
  cases haborts with
  | @condition r c f rule condition aborts =>
    obtain ⟨n, hn⟩ := List.getElem?_of_mem rule
    obtain ⟨issues, -, hissues⟩ := hparts.exists_result hn
    obtain ⟨-, conditions, -, -, -, hconditions, -⟩ := ruleIssues_eq_ok hissues
    obtain ⟨j, hj⟩ := List.getElem?_of_mem condition
    obtain ⟨found, -, hfound⟩ := hconditions.exists_result hj
    have hc := Rule.wellFormed_conditions (hwell r rule) c condition
    cases ((conditionIssues_eq_error_iff hev hc).2 aborts).symm.trans hfound
  | @range r rule long =>
    obtain ⟨n, hn⟩ := List.getElem?_of_mem rule
    obtain ⟨issues, -, hissues⟩ := hparts.exists_result hn
    obtain ⟨priority, -, -, -, hpriority, -⟩ := ruleIssues_eq_ok hissues
    cases long.symm.trans ((writtenIf_priorityIssues l _ r).iff_of_ok hpriority)
  | @tie n r rule long =>
    obtain ⟨issues, -, hissues⟩ := hparts.exists_result rule
    obtain ⟨-, -, -, ties, -, -, -, hties, -⟩ := ruleIssues_eq_ok hissues
    cases long.symm.trans ((writtenIf_tieIssues _ _ r).iff_of_ok hties)

end Reports

/-- What keeps a check of well-formed rules from a report. -/
theorem aborts_of_report [Interpreter] {l : Limits} {ev : Option Evaluator} {rules : List Rule}
    {f : Fault}
    (hev : Answers ev) (hwell : ∀ r ∈ rules, r.wellFormed = true)
    (h : report l ev rules = .error f) : Aborts l rules f := by
  simp only [report, bind_eq_error, pure_ne_error, and_false, exists_false, or_false] at h
  obtain ⟨n, r, hr, hissues⟩ := exists_of_eachIssues_eq_error h
  exact aborts_of_ruleIssues hev hr (hwell r (List.mem_of_getElem? hr)) hissues

end Lint

end MessageRouting
