import MessageRouting.Expression.Table
import MessageRouting.Proofs.DraftRun
import MessageRouting.Proofs.Literals

/-!
# The findings of conditions that nothing has checked

Whatever the attributes of a condition are, its evaluation gives a regular finding, and one that
holds has a reason (`DraftCondition.Met`): no fault on the way makes a condition hold. Only its tag
can end the evaluation (`DraftCondition.Unanswered`): one that cannot be read, one that cannot be
logged after a fault, and an unknown one that cannot be logged or shown in the warning about it. For
a tag that is a value this means an integer of too many digits, too many levels, or a text that is
not made of characters where the log refuses that (`draft_findings_exact`).
-/

namespace MessageRouting

open Expression

theorem Value.holds_iff {v : Value} : v.holds = true ↔ v ≠ .null ∧ v ≠ .bool false := by
  unfold holds
  split <;> simp_all

namespace Condition

open Finding

variable [Interpreter]

theorem matched_containsWritten_none {written : Except Fault (List Char)} {f : Finding}
    (h : containsWritten none written = .ok f) : f.matched = false :=
  pure_eq_ok.1 h ▸ rfl

theorem matched_matchesWritten_none {written : Except Fault (List Char)} {f : Finding}
    (h : matchesWritten none written = .ok f) : f.matched = false := by
  simp only [matchesWritten, bind_eq_ok] at h
  obtain ⟨pattern, -, h⟩ := h
  split at h
  · exact absurd h throw_ne_ok
  · exact absurd h throw_ne_ok
  · exact absurd h throw_ne_ok
  · exact pure_eq_ok.1 h ▸ rfl
  · exact pure_eq_ok.1 h ▸ rfl

end Condition

namespace DraftCondition

open Condition Finding

/-- A value is named like something only if it is a text. -/
theorem named?_value {α : Type} (v : Value) (names : List (String × α)) :
    ∃ found, (Attribute.value v).named? names = .ok found ∧
      ∀ x, found = some x → ∃ name, v = .text name := by
  induction names with
  | nil => exact ⟨none, rfl, nofun⟩
  | cons pair names ih =>
    obtain ⟨name, x⟩ := pair
    obtain ⟨same, hsame, htext⟩ : ∃ same, (Attribute.value v).isText name = .ok same ∧
        (same = true → ∃ text, v = .text text) := by
      unfold Attribute.isText
      split
      · exact ⟨_, rfl, fun _ => ⟨_, Attribute.value.inj ‹_›⟩⟩
      · exact ⟨false, rfl, nofun⟩
      · cases ‹_›
    rw [Attribute.named?, hsame]
    cases same with
    | true => exact ⟨some x, rfl, fun _ _ => htext rfl⟩
    | false => exact ih

/-- A path is without result only if it is not given. -/
theorem located_eq_ok_some {m : Message} {c : DraftCondition} {space : Space}
    {actual : Option Value}
    (h : located m space c = .ok (some actual)) :
    ∃ p, c.path.orNull = .ok p ∧ p.isFilled = .ok true ∧ p.locate m space = .ok actual := by
  simp only [located, bind_eq_ok] at h
  obtain ⟨p, hp, filled, hfilled, h⟩ := h
  split at h
  · rename_i htrue
    simp only [bind_eq_ok, pure_eq_ok, Option.some.injEq] at h
    obtain ⟨found, hfound, rfl⟩ := h
    exact ⟨p, hp, by rw [hfilled, htrue], hfound⟩
  · cases pure_eq_ok.1 h

/-! ## Why a condition is met -/

variable [Interpreter]

/-- Why a condition holds whose tag has a meaning. -/
inductive Holds (ev : DraftEvaluator) (m : Message) (c : DraftCondition) : Meaning → Prop where
  /-- Its expression is given and succeeds on the payload with something that holds. -/
  | expression {e : Attribute} {o : Outcome} (expression_eq : c.expression.orNull = .ok e)
      (filled : e.isFilled = .ok true)
      (reply_eq : (ev.evaluate e m.payload).reply = .answered o) (success : o.success = true)
      (output_ne : o.output ≠ .null ∧ o.output ≠ .bool false) : Holds ev m c .expression
  /-- What its path names is there and compares with its operand, which is not null if the operator
  needs one. -/
  | field {p a w : Attribute} {space : Space} {v : Value} {operator : Operator}
      (path_eq : c.path.orNull = .ok p) (filled : p.isFilled = .ok true)
      (located : p.locate m space = .ok (some v)) (operator_eq : c.operator.orNull = .ok a)
      (known : a.named? operators = .ok (some operator)) (operand_eq : c.operand.orNull = .ok w)
      (operand_ne : operator.needsOperand = true → w.isNull = false)
      (compared : compare operator (a.plainText) (some v) w = .ok (.plain true)) :
      Holds ev m c (.field space)

/-- A condition is met: its tag is a known one, and it holds by what the tag means. -/
def Met (ev : DraftEvaluator) (m : Message) (c : DraftCondition) : Prop :=
  ∃ t meaning, c.tag.orNull = .ok t ∧ t.named? meanings = .ok (some meaning) ∧
    c.Holds ev m meaning

/-- Why a condition that nothing has checked has no finding. -/
inductive Unanswered (ev : DraftEvaluator) (m : Message) (c : DraftCondition) (f : Fault) :
    Prop where
  /-- Its tag cannot be read. -/
  | unreadable (tag_eq : c.tag.orNull = .error f)
  /-- Its tag cannot be compared with the known ones, and not be logged either. -/
  | incomparable {t : Attribute} {g : Fault} (tag_eq : c.tag.orNull = .ok t)
      (meaning_eq : t.named? meanings = .error g) (logged_eq : t.logged = .error f)
  /-- Its evaluation fails, and its tag cannot be logged. -/
  | unlogged {t : Attribute} {meaning : Meaning} {g : Fault} (tag_eq : c.tag.orNull = .ok t)
      (meaning_eq : t.named? meanings = .ok (some meaning))
      (evaluated : (evaluateAs ev m c meaning).1 = .error g) (logged_eq : t.logged = .error f)
  /-- Its tag is unknown, and it cannot be logged, or the warning about it cannot show it. -/
  | unwritten {t : Attribute} (tag_eq : c.tag.orNull = .ok t)
      (unknown : t.named? meanings = .ok none)
      (written : t.logged = .error f ∨
        ∃ shown, t.logged = .ok shown ∧ t.plainText = .error f)

/-! ## Comparisons -/

variable {ev : DraftEvaluator} {m : Message} {c : DraftCondition}

theorem regular_compare {operator : Operator} {shown : Except Fault String}
    {actual : Option Value} {operand : Attribute} {f : Finding}
    (h : compare operator shown actual operand = .ok f) : f.Regular := by
  unfold compare at h
  split at h
  · obtain ⟨name, -, rfl⟩ := map_eq_ok.1 h
    exact regular_warn _ _
  · cases operator with
    | present => exact Except.ok.inj h ▸ regular_plain _
    | contains => exact regular_containsWritten h
    | regex => exact regular_matchesWritten h
    | equals =>
      cases operand with
      | value w => exact regular_equalsOperand h
      | foreign o =>
        cases actual with
        | none => exact Except.ok.inj h ▸ regular_plain _
        | some v =>
          obtain ⟨b, -, rfl⟩ := map_eq_ok.1 h
          exact regular_plain b

/-- A field that is not there meets no condition. -/
theorem matched_compare_none {operator : Operator} {shown : Except Fault String}
    {operand : Attribute} {f : Finding} (h : compare operator shown none operand = .ok f) :
    f.matched = false := by
  unfold compare at h
  split at h
  · obtain ⟨name, -, rfl⟩ := map_eq_ok.1 h
    rfl
  · cases operator with
    | present => exact Except.ok.inj h ▸ rfl
    | contains => exact matched_containsWritten_none h
    | regex => exact matched_matchesWritten_none h
    | equals => cases operand <;> exact Except.ok.inj h ▸ rfl

/-- A comparison that holds is one of something that is there, with an operand if one is needed. -/
theorem compare_of_matched {operator : Operator} {shown : Except Fault String}
    {actual : Option Value} {operand : Attribute} {f : Finding}
    (h : compare operator shown actual operand = .ok f) (hf : f.matched = true) :
    f = .plain true ∧ (∃ v, actual = some v) ∧
      (operator.needsOperand = true → operand.isNull = false) := by
  refine ⟨?_, ?_, fun hneeds => ?_⟩
  · rcases regular_compare h with ⟨b, rfl⟩ | ⟨message, suggestion, rfl⟩
    · rw [show b = true from hf]
    · cases hf
  · cases actual with
    | none => rw [matched_compare_none h] at hf; cases hf
    | some v => exact ⟨v, rfl⟩
  · refine Bool.eq_false_iff.2 fun hnull => ?_
    unfold compare at h
    rw [hneeds, hnull, Bool.and_self, if_pos rfl] at h
    obtain ⟨name, -, rfl⟩ := map_eq_ok.1 h
    cases hf

/-! ## Findings -/

/-- An expression that is evaluated is not met, or it holds of the payload. -/
theorem evaluateExpression_eq_ok {e : Attribute} {f : Finding}
    (h : (evaluateExpression ev m e).1 = .ok f) :
    (f.Regular ∧ f.matched = false) ∨ ∃ o, e.isFilled = .ok true ∧
      (ev.evaluate e m.payload).reply = .answered o ∧ o.success = true ∧
      f = .plain o.output.holds := by
  unfold evaluateExpression at h
  split at h
  · cases h
  · exact .inl ⟨Except.ok.inj h ▸ regular_warn _ _, Except.ok.inj h ▸ rfl⟩
  · rename_i hfilled
    dsimp only at h
    split at h
    · exact absurd h throw_ne_ok
    · rename_i o hreply
      split at h
      · rename_i hsuccess
        exact .inr ⟨o, hfilled, hreply, hsuccess, (pure_eq_ok.1 h).symm⟩
      · rename_i hfailed
        simp only [bind_eq_ok, pure_eq_ok] at h
        obtain ⟨text, -, rfl⟩ := h
        refine .inl ⟨regular_ofOutcome _ _, ?_⟩
        rw [ofOutcome, if_neg hfailed]
        rfl

theorem compareAs_eq_ok {a w : Attribute} {actual : Option Value} {f : Finding}
    (h : (compareAs a w actual).1 = .ok f) :
    (f.Regular ∧ f.matched = false) ∨ ∃ operator, a.named? operators = .ok (some operator) ∧
      compare operator (a.plainText) actual w = .ok f := by
  unfold compareAs at h
  split at h
  · cases h
  · exact .inr ⟨_, ‹_›, h⟩
  · split at h
    · cases h
    · simp only [bind_eq_ok, pure_eq_ok] at h
      obtain ⟨text, -, rfl⟩ := h
      exact .inl ⟨regular_warn _ _, rfl⟩

theorem evaluateField_eq_ok {space : Space} {f : Finding}
    (h : (evaluateField m space c).1 = .ok f) :
    (f.Regular ∧ f.matched = false) ∨ (f = .plain true ∧ c.Holds ev m (.field space)) := by
  unfold evaluateField at h
  split at h
  · cases h
  · exact .inl ⟨Except.ok.inj h ▸ regular_plain _, Except.ok.inj h ▸ rfl⟩
  · rename_i actual hactual
    obtain ⟨p, hp, hfilled, hlocate⟩ := located_eq_ok_some hactual
    split at h
    · cases h
    · cases h
    · rename_i a w ha hw
      rcases compareAs_eq_ok h with hnot | ⟨operator, hoperator, hcompare⟩
      · exact .inl hnot
      · cases hmatched : f.matched with
        | false => exact .inl ⟨regular_compare hcompare, rfl⟩
        | true =>
          obtain ⟨rfl, ⟨v, rfl⟩, hneeds⟩ := compare_of_matched hcompare hmatched
          exact .inr ⟨rfl, .field hp hfilled hlocate ha hoperator hw hneeds hcompare⟩

/-- The finding of a condition with a known tag is regular, and it does not hold unless there is a
reason. -/
theorem evaluateAs_eq_ok {meaning : Meaning} {f : Finding}
    (h : (evaluateAs ev m c meaning).1 = .ok f) :
    f.Regular ∧ (f.matched = true → c.Holds ev m meaning) := by
  cases meaning with
  | field space =>
    have hcases : (f.Regular ∧ f.matched = false) ∨
        (f = .plain true ∧ c.Holds ev m (.field space)) := evaluateField_eq_ok h
    rcases hcases with ⟨hregular, hfalse⟩ | ⟨rfl, hholds⟩
    · exact ⟨hregular, fun htrue => by rw [hfalse] at htrue; cases htrue⟩
    · exact ⟨regular_plain _, fun _ => hholds⟩
  | expression =>
    unfold evaluateAs at h
    dsimp only at h
    split at h
    · cases h
    · rename_i e he
      rcases evaluateExpression_eq_ok h with ⟨hregular, hfalse⟩ | ⟨o, hfilled, hreply, hs, rfl⟩
      · exact ⟨hregular, fun htrue => by rw [hfalse] at htrue; cases htrue⟩
      · exact ⟨regular_plain _, fun htrue =>
          .expression he hfilled hreply hs (Value.holds_iff.1 htrue)⟩

/-- A condition that holds by something is found to hold, without a warning. -/
theorem evaluateAs_of_holds {meaning : Meaning} (h : c.Holds ev m meaning) :
    (evaluateAs ev m c meaning).1 = .ok (.plain true) := by
  cases h with
  | expression he hfilled hreply hsuccess hne =>
    simp [evaluateAs, he, evaluateExpression, hfilled, hreply, hsuccess, Value.holds_iff.2 hne,
      pure, Except.pure]
  | @field p a w space v operator hp hfilled hlocate ha hoperator hw hneeds hcompare =>
    have hlocated : located m space c = .ok (some (some v)) := by
      simp [located, hp, hfilled, hlocate, bind, Except.bind, pure, Except.pure]
    simp [evaluateAs, evaluateField, hlocated, ha, hw, compareAs, hoperator, hcompare]

/-! ## Evaluation -/

theorem settle_eq_ok {t : Attribute} {log : List Log.Event} {r : Except Fault Finding}
    {a : Appraisal} (h : settle t log r = .ok a) :
    r = .ok a.finding ∨ ∃ f, r = .error f ∧ a.finding = .ofFault f := by
  cases r with
  | ok f => exact .inl (congrArg Except.ok (congrArg Appraisal.finding (Except.ok.inj h)))
  | error f =>
    simp only [settle, bind_eq_ok, pure_eq_ok] at h
    obtain ⟨shown, -, rfl⟩ := h
    exact .inr ⟨f, rfl, rfl⟩

theorem settle_eq_error {t : Attribute} {log : List Log.Event} {r : Except Fault Finding}
    {f : Fault} : settle t log r = .error f ↔ (∃ g, r = .error g) ∧ t.logged = .error f := by
  cases r with
  | ok a => simp [settle]
  | error g => simp only [settle, bind_eq_error, pure_ne_error, and_false, exists_false, or_false,
      Except.error.injEq, exists_eq', true_and]

/-- The finding of a condition is regular, and it holds exactly if there is a reason. -/
theorem evaluate_eq_ok {a : Appraisal} (h : c.evaluate ev m = .ok a) :
    a.finding.Regular ∧ (a.finding.matched = true ↔ c.Met ev m) := by
  simp only [evaluate, bind_eq_ok] at h
  obtain ⟨t, htag, h⟩ := h
  have hmet {known : Option Meaning} (hknown : t.named? meanings = .ok known) :
      c.Met ev m ↔ ∃ meaning, known = some meaning ∧ c.Holds ev m meaning := by
    simp [Met, htag, hknown]
  split at h
  · rename_i f hincomparable
    rcases settle_eq_ok h with hok | ⟨g, hg, hfinding⟩
    · cases hok
    · rw [hfinding]
      refine ⟨regular_ofFault g, fun h => absurd h Bool.false_ne_true, ?_⟩
      rintro ⟨t', meaning, htag', hmeaning, -⟩
      obtain rfl : t = t' := Except.ok.inj (htag.symm.trans htag')
      cases hincomparable.symm.trans hmeaning
  · rename_i meaning hmeaning
    rw [hmet hmeaning]
    simp only [Option.some.injEq, exists_eq_left']
    rcases settle_eq_ok h with hok | ⟨g, hg, hfinding⟩
    · obtain ⟨hregular, hholds⟩ := evaluateAs_eq_ok hok
      refine ⟨hregular, hholds, fun hreason => ?_⟩
      rw [Except.ok.inj (hok.symm.trans (evaluateAs_of_holds hreason))]
      rfl
    · rw [hfinding]
      refine ⟨regular_ofFault g, fun h => absurd h Bool.false_ne_true, fun hreason => ?_⟩
      cases hg.symm.trans (evaluateAs_of_holds hreason)
  · rename_i hunknown
    simp only [bind_eq_ok, pure_eq_ok] at h
    obtain ⟨shown, -, written, -, rfl⟩ := h
    rw [hmet hunknown]
    refine ⟨regular_warn _ _, fun h => absurd h Bool.false_ne_true, ?_⟩
    rintro ⟨meaning, hnone, -⟩
    cases hnone

/-- **Only its tag keeps a condition from a finding.** -/
theorem evaluate_eq_error_iff {f : Fault} :
    c.evaluate ev m = .error f ↔ c.Unanswered ev m f := by
  constructor
  · intro h
    simp only [evaluate, bind_eq_error] at h
    rcases h with htag | ⟨t, htag, h⟩
    · exact .unreadable htag
    · split at h
      · exact .incomparable htag ‹_› (settle_eq_error.1 h).2
      · obtain ⟨⟨g, hg⟩, hlogged⟩ := settle_eq_error.1 h
        exact .unlogged htag ‹_› hg hlogged
      · refine .unwritten htag ‹_› ?_
        simpa only [bind_eq_error, pure_ne_error, and_false, exists_false, or_false] using h
  · intro h
    cases h with
    | unreadable htag => simp [evaluate, htag, bind, Except.bind]
    | incomparable htag hmeaning hlogged =>
      simp only [evaluate, htag, bind, Except.bind, hmeaning]
      exact settle_eq_error.2 ⟨⟨_, rfl⟩, hlogged⟩
    | unlogged htag hmeaning hg hlogged =>
      simp only [evaluate, htag, bind, Except.bind, hmeaning]
      exact settle_eq_error.2 ⟨⟨_, hg⟩, hlogged⟩
    | unwritten htag hunknown hwritten =>
      rcases hwritten with hlogged | ⟨shown, hlogged, hwritten⟩ <;>
        simp [evaluate, bind, Except.bind, *]

/-! ## Tags that are values -/

/-- The text of a value can be shown exactly if it can be written. -/
theorem exists_plainText_iff {v : Value} :
    (∃ s, (Attribute.value v).plainText = .ok s) ↔ v.isWritable = true :=
  ⟨fun ⟨_, hs⟩ => (Value.writtenIf_plainText v).iff_of_ok hs,
    (Value.writtenIf_plainText v).exists_ok⟩

/-- A value can be logged exactly if it can be written and the log does not refuse it. -/
theorem exists_logged_iff {v : Value} :
    (∃ shown, (Attribute.value v).logged = .ok shown) ↔ v.isWritable = true ∧
      ∀ codes, v = .scalar (.broken codes) → Interpreter.logRefusal = none := by
  unfold Attribute.logged
  split
  · rename_i codes heq
    obtain rfl := Attribute.value.inj heq
    have hwritable : (Value.scalar (.broken codes)).isWritable = true := rfl
    cases Interpreter.logRefusal <;> simp [hwritable]
  · rename_i hwhole heq
    obtain rfl := Attribute.value.inj heq
    rw [and_iff_left fun codes h => absurd h (hwhole codes), ← exists_plainText_iff]
    simp only [bind_eq_ok, pure_eq_ok, Attribute.plainText]
    constructor
    · rintro ⟨_, s, hs, _⟩
      exact ⟨s, hs⟩
    · rintro ⟨s, hs⟩
      exact ⟨v, s, hs, rfl⟩
  · cases ‹_›

theorem logged_int {n : Int} {f : Fault} (h : Literal.integer n = .error f) :
    (Attribute.value (.int n)).logged = .error f := by
  simp only [Attribute.logged, Value.plainText, Value.plain, Scalar.plain, Scalar.literal, h, bind,
    Except.bind]

/-- A tag that is a value has a finding exactly if it can be logged. -/
theorem exists_evaluate_iff {v : Value} (htag : c.tag.orNull = .ok (.value v)) :
    (∃ a, c.evaluate ev m = .ok a) ↔ v.isWritable = true ∧
      ∀ codes, v = .scalar (.broken codes) → Interpreter.logRefusal = none := by
  rw [← exists_logged_iff]
  obtain ⟨known, hknown, htext⟩ := named?_value v meanings
  cases known with
  | some meaning =>
    obtain ⟨name, rfl⟩ := htext meaning rfl
    refine iff_of_true ?_ ⟨_, Draft.logged_text name⟩
    simp only [evaluate, htag, bind, Except.bind, hknown]
    exact ⟨_, Draft.settle_text name _ _⟩
  | none =>
    simp only [evaluate, htag, bind_eq_ok, Except.ok.injEq, exists_eq_left', hknown, pure_eq_ok]
    constructor
    · rintro ⟨_, shown, hshown, _⟩
      exact ⟨shown, hshown⟩
    · rintro ⟨shown, hshown⟩
      obtain ⟨s, hs⟩ := exists_plainText_iff.2 (exists_logged_iff.1 ⟨shown, hshown⟩).1
      exact ⟨_, shown, hshown, s, hs, rfl⟩

end DraftCondition

open DraftCondition

/-- **Conditions that nothing has checked never hold by a fault.** A checked condition is evaluated
like its draft. A draft has no finding exactly if its tag cannot be read, or cannot be logged or
shown when it has to be; if the tag is a value, exactly if it has integers of too many digits or too
many levels, or is a text that is not made of characters and the log refuses that. A finding with an
issue is a warning and does not hold, and a finding holds exactly if there is a reason. -/
theorem draft_findings_exact [Interpreter] (ev : DraftEvaluator) (m : Message) :
    (∀ (base : Evaluator) (refusal : Foreign → Fault) (c : Condition),
      c.draft.evaluate (base.forDrafts refusal) m = .ok (c.evaluate base m)) ∧
    ∀ c : DraftCondition,
      (∀ f, c.evaluate ev m = .error f ↔ c.Unanswered ev m f) ∧
      (∀ v, c.tag.orNull = .ok (.value v) → ((∃ a, c.evaluate ev m = .ok a) ↔
        v.isWritable = true ∧
          ∀ codes, v = .scalar (.broken codes) → Interpreter.logRefusal = none)) ∧
      ∀ a, c.evaluate ev m = .ok a →
        (∀ i, a.finding.issue = some i → a.finding.matched = false ∧ i.severity = .warning ∧
          i.context = some Finding.place) ∧
        (a.finding.matched = true ↔ c.Met ev m) := by
  refine ⟨fun base refusal c => Draft.evaluate_draft base refusal m c, fun c =>
    ⟨fun f => evaluate_eq_error_iff, fun v => exists_evaluate_iff, fun a ha => ?_⟩⟩
  obtain ⟨hregular, hmatched⟩ := evaluate_eq_ok ha
  refine ⟨fun i hi => ⟨?_, hregular.issue hi⟩, hmatched⟩
  rcases hregular with ⟨b, hb⟩ | ⟨message, suggestion, hwarn⟩
  · rw [hb] at hi
    cases hi
  · rw [hwarn]
    rfl

section

open scoped Interpreter.Usual

/-- The smallest integer of too many digits, as a tag, leaves a condition without a finding. -/
theorem evaluate_tag_tooManyDigits :
    ({ DraftCondition.bare foreignKind with
        tag := Lookup.given (some (.int (10 ^ Fault.maxDigits))) } : DraftCondition).evaluate
      ((Table.evaluator []).forDrafts fun _ => .noAttribute "object" "evaluate") ⟨.null, [], []⟩ =
        .error .digitLimit := by
  have hpow (k : Nat) : 10 ^ k ≤ ((10 : Int) ^ k).natAbs :=
    Nat.le_of_eq (Int.natAbs_pow 10 k).symm
  have hlong := Scalar.isWritable_int_of_le (hpow Fault.maxDigits)
  have hliteral : Literal.integer (10 ^ Fault.maxDigits) = .error .digitLimit :=
    (Literal.writtenIf_integer _).error_iff.2 ⟨rfl, Bool.eq_false_iff.1 hlong⟩
  exact evaluate_eq_error_iff.2 (.unwritten rfl rfl (.inl (logged_int hliteral)))

end

end MessageRouting
