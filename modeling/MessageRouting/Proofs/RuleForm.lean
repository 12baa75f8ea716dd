import MessageRouting.Proofs.Acceptance

/-!
# Rules as they look from outside

A check accepts what a rule looks like from outside, and gives the rule (`Rule.check_toValue`). For
a field condition it comes down to the operand rule (`Condition.check_field`).
-/

namespace MessageRouting

open Schema

/-! ## Accepted parts -/

namespace Schema

variable {α : Type} {ms : Members} {name : String} {check : Check α} {v : Value} {a : α}

theorem required_of_member (hv : Value.memberOf? ms (.text name) = some v)
    (ha : check v = .accepted a) : required ms name check = .accepted a := by
  rw [required, hv]
  simp only [ha, Checked.within]

theorem optional_of_member {default : α} (hv : Value.memberOf? ms (.text name) = some v)
    (ha : check v = .accepted a) : optional ms name default check = .accepted a := by
  rw [optional, hv]
  simp only [ha, Checked.within]

theorem filledText_text {s : String} (h : s ≠ "") : filledText (.text s) = .accepted s :=
  if_neg h

theorem anything_value (v : Value) : anything v = .accepted v := rfl

theorem boolean_bool (b : Bool) : boolean (.bool b) = .accepted b := rfl

theorem integer_int (n : Int) : integer (.int n) = .accepted n := rfl

theorem nullable_textOrNull (s : Option String) :
    nullable text (Value.textOrNull s) = .accepted s := by
  cases s <;> rfl

theorem itemsFrom_map {f : α → Value} {as : List α} (h : ∀ a ∈ as, check (f a) = .accepted a)
    (i : Nat) : itemsFrom check i (as.map f) = .accepted as := by
  induction as generalizing i with
  | nil => rfl
  | cons a as ih =>
    rw [List.map_cons, itemsFrom, h a List.mem_cons_self,
      ih (fun b hb => h b (List.mem_cons_of_mem _ hb)) (i + 1)]
    rfl

theorem listOf_map {f : α → Value} {as : List α} (h : ∀ a ∈ as, check (f a) = .accepted a) :
    listOf check (.list (as.map f)) = .accepted as :=
  itemsFrom_map h 0

end Schema

/-! ## Conditions and rules -/

namespace Condition

/-- The check of a field condition comes down to its operand rule. -/
theorem checkField_fields (space : Space) (path : Option String) (operator : Operator)
    (operand : Value) :
    checkField space ((fields (field space path operator operand)).map fun (n, v) => (.text n, v)) =
      withOperand space path operator operand := by
  rw [checkField, optional_of_member rfl (nullable_textOrNull path),
    optional_of_member (a := operator) rfl (by cases operator <;> rfl),
    optional_of_member rfl (anything_value operand), tagMember,
    optional_of_member (a := ()) rfl (by cases space <;> rfl)]
  rfl

theorem checkExpression_fields {e : String} (h : (expression e).wellFormed = true) :
    checkExpression ((fields (expression e)).map fun (n, v) => (.text n, v)) =
      .accepted (expression e) := by
  rw [checkExpression, tagMember, optional_of_member (a := ()) rfl rfl,
    required_of_member rfl (filledText_text (of_decide_eq_true h))]
  rfl

variable [Interpreter]

/-- The check of a field condition as it looks from outside. -/
theorem check_field (space : Space) (path : Option String) (operator : Operator)
    (operand : Value) : check (field space path operator operand).toValue =
      (withOperand space path operator operand).within (.member space.name) := by
  rw [← checkField_fields]
  cases space <;> rfl

/-- A check accepts a condition as it looks from outside. -/
theorem check_toValue {c : Condition} (h : c.wellFormed = true) :
    check c.toValue = .accepted c := by
  cases c with
  | expression e =>
    have hcheck : check (expression e).toValue =
        (checkExpression ((fields (expression e)).map fun (n, v) => (.text n, v))).within
          (.member expressionTag) := rfl
    rw [hcheck, checkExpression_fields h]
    rfl
  | field space path operator operand =>
    have hoperand : ¬ (operator.needsOperand && operand.isNull) = true := by
      simpa only [wellFormed, Bool.not_eq_true', Bool.not_eq_true] using h
    rw [check_field, withOperand, if_neg hoperand]
    rfl

end Condition

theorem Transform.check_toValue {t : Transform} (h : t.expression ≠ "") :
    check t.entity.toValue = .accepted t := by
  change (Transform.mk <$> optional _ "enabled" true boolean <*>
    required _ "jq_expression" filledText) = .accepted t
  rw [optional_of_member rfl (boolean_bool t.enabled), required_of_member rfl (filledText_text h)]
  rfl

/-- **A check accepts a rule as it looks from outside.** -/
theorem Rule.check_toValue [Interpreter] {r : Rule} (h : r.wellFormed = true) :
    check r.toValue = .accepted r := by
  simp only [wellFormed, Bool.and_eq_true, decide_eq_true_eq, List.all_eq_true,
    Option.all_eq_true] at h
  obtain ⟨⟨⟨hname, hdestination⟩, hconditions⟩, htransform⟩ := h
  have htransform' : nullable Transform.check
      ((r.transform.map fun t => t.entity.toValue).getD .null) = .accepted r.transform := by
    cases ht : r.transform with
    | none => rfl
    | some t =>
      change (Transform.check t.entity.toValue).map some = _
      rw [Transform.check_toValue (htransform t ht)]
      rfl
  have hcombination : enumeration [(Combination.all.name, .all), (Combination.any.name, .any)]
      (.text r.combination.name) = .accepted r.combination := by
    cases r.combination <;> rfl
  change (Rule.mk <$> required _ "name" filledText
      <*> optional _ "description" none (nullable text)
      <*> optional _ "enabled" true boolean
      <*> optional _ "priority" usualPriority integer
      <*> optional _ "conditions" [] (listOf Condition.check)
      <*> optional _ "condition_operator" .all
        (enumeration [(Combination.all.name, .all), (Combination.any.name, .any)])
      <*> optional _ "transform" none (nullable Transform.check)
      <*> required _ "destination" filledText) = .accepted r
  rw [required_of_member rfl (filledText_text hname),
    optional_of_member rfl (nullable_textOrNull r.description),
    optional_of_member rfl (boolean_bool r.enabled),
    optional_of_member rfl (integer_int r.priority),
    optional_of_member rfl (listOf_map fun c hc => Condition.check_toValue (hconditions c hc)),
    optional_of_member rfl hcombination, optional_of_member rfl htransform',
    required_of_member rfl (filledText_text hdestination)]
  rfl

end MessageRouting
