import Mathlib.Data.List.Forall2
import MessageRouting.Proofs.Acceptance
import MessageRouting.RuleSet.File

/-!
# What data describes

A check accepts exactly the data that describes something, and gives what it describes: a condition
(`Condition.check_eq_accepted_iff`), a rule (`Rule.check_eq_accepted_iff`) and a rule set
(`RuleSet.ofValue_eq_ok_iff`). The descriptions speak of members, variants, names and defaults and
not of checks; only truth values and integers, which can be given in several forms, are left to
their checks. `RuleSet.ofValue_exact` says what this means for a rule set: its rules are those of
the data, one for each element, and a rule that is given twice is refused.
-/

namespace MessageRouting

open Schema

/-! ## Members -/

namespace Schema

variable {α : Type}

/-- A member is there and stands for something. -/
def Gives (ms : Members) (name : String) (Means : Value → α → Prop) (a : α) : Prop :=
  ∃ v, Value.memberOf? ms (.text name) = some v ∧ Means v a

/-- A member stands for something, or it is left out and a default stands for it. -/
def GivesOr (ms : Members) (name : String) (default : α) (Means : Value → α → Prop) (a : α) :
    Prop :=
  Gives ms name Means a ∨ Value.memberOf? ms (.text name) = none ∧ a = default

variable {ms : Members} {name : String} {check : Check α} {Means : Value → α → Prop} {a : α}

open Checked

theorem required_eq_accepted (h : ∀ v, check v = .accepted a ↔ Means v a) :
    required ms name check = .accepted a ↔ Gives ms name Means a := by
  unfold required Gives
  cases Value.memberOf? ms (.text name) with
  | none => simp
  | some v => simp [within_eq_accepted, h]

theorem optional_eq_accepted {default : α} (h : ∀ v, check v = .accepted a ↔ Means v a) :
    optional ms name default check = .accepted a ↔ GivesOr ms name default Means a := by
  unfold optional GivesOr Gives
  cases Value.memberOf? ms (.text name) with
  | none => simp [eq_comm]
  | some v => simp [within_eq_accepted, h]

theorem record_eq_accepted {kind : String} {check : Members → Checked α} {v : Value} :
    record kind check v = .accepted a ↔ ∃ ms, v = .object ms ∧ check ms = .accepted a := by
  refine ⟨of_record, ?_⟩
  rintro ⟨ms, rfl, h⟩
  exact h

/-! ## Single values -/

/-- A value gives a text; bytes and a text that is not all characters can give one too. -/
def TextIs (v : Value) (s : String) : Prop := textOf? v = some s

/-- A value gives a text of characters. -/
def WholeTextIs (v : Value) (s : String) : Prop := wholeText? v = some s

/-- A value gives a text, or it is null for none. -/
def TextOrNull (v : Value) : Option String → Prop
  | none => v = .null
  | some s => TextIs v s

/-- A value gives items that stand for something, one for each: a list, a set or a pair. -/
def ItemsAre {β : Type} (Means : Value → β → Prop) (v : Value) (bs : List β) : Prop :=
  ∃ vs, itemsOf? v = some vs ∧ List.Forall₂ Means vs bs

theorem text_eq_accepted {v : Value} {s : String} : text v = .accepted s ↔ TextIs v s := by
  unfold text TextIs
  cases textOf? v <;> simp [reject]

theorem filledText_eq_accepted {v : Value} {s : String} :
    filledText v = .accepted s ↔ WholeTextIs v s ∧ s ≠ "" := by
  unfold filledText WholeTextIs
  cases wholeText? v with
  | none => simp [reject]
  | some t =>
    by_cases ht : t = ""
    · simp only [ht, ↓reduceIte, Option.some.injEq]
      exact iff_of_false reject_ne_accepted fun h => h.2 h.1.symm
    · simp only [ht, ↓reduceIte, accepted.injEq, Option.some.injEq]
      exact ⟨fun h => ⟨h, h ▸ ht⟩, And.left⟩

theorem filled_eq_accepted {s : String} :
    required ms name filledText = .accepted s ↔ Gives ms name WholeTextIs s ∧ s ≠ "" := by
  have h : required ms name filledText = .accepted s ↔
      Gives ms name (fun v s => WholeTextIs v s ∧ s ≠ "") s :=
    required_eq_accepted fun _ => filledText_eq_accepted
  rw [h, Gives, Gives]
  simp only [← and_assoc, exists_and_right]

/-- Null stands for nothing, and all else for what another check accepts. -/
theorem nullable_eq_accepted {v : Value} {o : Option α} :
    nullable check v = .accepted o ↔
      v = .null ∧ o = none ∨ v ≠ .null ∧ ∃ a, o = some a ∧ check v = .accepted a := by
  unfold nullable
  split
  · simp [eq_comm]
  · rename_i h
    have hnull : v ≠ .null := h
    simp only [map_eq_accepted, hnull, false_and, false_or, ne_eq, not_false_eq_true, true_and]
    simp only [and_comm, eq_comm]

theorem nullable_text_eq_accepted {v : Value} {o : Option String} :
    nullable text v = .accepted o ↔ TextOrNull v o := by
  rw [nullable_eq_accepted]
  cases o with
  | none => simp [TextOrNull]
  | some s =>
    simp only [reduceCtorEq, and_false, false_or, Option.some.injEq, exists_eq_left',
      text_eq_accepted, TextOrNull]
    refine and_iff_right_of_imp ?_
    rintro h rfl
    cases h

theorem itemsFrom_eq_accepted (h : ∀ v a, check v = .accepted a ↔ Means v a) {i : Nat}
    {vs : List Value} {as : List α} :
    itemsFrom check i vs = .accepted as ↔ List.Forall₂ Means vs as := by
  induction vs generalizing i as with
  | nil => simp [itemsFrom, eq_comm]
  | cons v vs ih =>
    cases as with
    | nil => simp [itemsFrom, map_eq_accepted]
    | cons a as => simp [itemsFrom, map_eq_accepted, both_eq_accepted, within_eq_accepted, h, ih]

/-- Items stand for what they stand for one by one. -/
theorem listOf_eq_accepted (h : ∀ v a, check v = .accepted a ↔ Means v a) {v : Value}
    {as : List α} : listOf check v = .accepted as ↔ ItemsAre Means v as := by
  unfold listOf ItemsAre
  cases itemsOf? v with
  | none => simp [reject]
  | some vs => simp [itemsFrom_eq_accepted h]

/-- The name of something among things with different names stands for it. -/
theorem lookup_eq_some_iff {nameOf : α → String} {all : List α}
    (hinj : ∀ b ∈ all, nameOf b = nameOf a → b = a) (ha : a ∈ all) {s : String} :
    (all.map fun b => (nameOf b, b)).lookup s = some a ↔ s = nameOf a := by
  cases hfound : (all.map fun b => (nameOf b, b)).lookup s with
  | some b =>
    obtain ⟨before, after, hall, -⟩ := List.lookup_eq_some_iff.1 hfound
    obtain ⟨c, hc, hpair⟩ : ∃ c ∈ all, (nameOf c, c) = (s, b) :=
      List.mem_map.1 (hall ▸ List.mem_append_right _ List.mem_cons_self)
    cases hpair
    rw [Option.some.injEq]
    exact ⟨congrArg nameOf, hinj b hc⟩
  | none =>
    refine iff_of_false (by simp) fun hname => ?_
    have hne := List.lookup_eq_none_iff.1 hfound _ (List.mem_map_of_mem ha)
    simp [hname] at hne

theorem enumeration_eq_accepted {nameOf : α → String} {all : List α}
    (hinj : ∀ b ∈ all, nameOf b = nameOf a → b = a) (ha : a ∈ all) {v : Value} :
    enumeration (all.map fun b => (nameOf b, b)) v = .accepted a ↔ TextIs v (nameOf a) := by
  unfold enumeration TextIs
  cases textOf? v with
  | none => simp [reject]
  | some s =>
    rw [Option.bind_some, Option.some.injEq, ← lookup_eq_some_iff hinj ha]
    cases (all.map fun b => (nameOf b, b)).lookup s <;> simp [reject]

end Schema

open Checked

/-! ## Conditions -/

namespace Condition

/-- What describes a condition: an object whose `type` names the variant, with what the variant
needs. -/
inductive Describes : Value → Condition → Prop
  /-- A condition on a field. -/
  | field {ms : Members} {space : Space} {path : Option String} {operator : Operator}
      {operand : Value} (variant : Value.memberOf? ms (.text "type") = some (.text space.name))
      (path_given : GivesOr ms "field" none TextOrNull path)
      (operator_given : GivesOr ms "operator" .equals (fun v o => TextIs v o.name) operator)
      (operand_given : GivesOr ms "value" .null Eq operand)
      (present : operator.needsOperand = true → operand ≠ .null) :
      Describes (.object ms) (.field space path operator operand)
  /-- An expression. -/
  | expression {ms : Members} {text : String}
      (variant : Value.memberOf? ms (.text "type") = some (.text expressionTag))
      (given : Gives ms "jq_expression" WholeTextIs text)
      (filled : text ≠ "") : Describes (.object ms) (.expression text)

theorem operator_eq_accepted {v : Value} {operator : Operator} :
    enumeration (Operator.all.map fun o => (o.name, o)) v = .accepted operator ↔
      TextIs v operator.name :=
  enumeration_eq_accepted (by cases operator <;> decide) (by cases operator <;> decide)

theorem tagMember_eq_accepted {ms : Members} {tag : String}
    (h : Value.memberOf? ms (.text "type") = some (.text tag)) :
    tagMember ms tag = .accepted () := by
  rw [tagMember, Schema.optional, h]
  simp [oneOf, within]

theorem isNull_iff {v : Value} : v.isNull = true ↔ v = .null := by
  unfold Value.isNull
  split
  · simp
  · rename_i h
    exact iff_of_false Bool.false_ne_true h

theorem withOperand_eq_accepted {space : Space} {path : Option String} {operator : Operator}
    {operand : Value} {c : Condition} :
    withOperand space path operator operand = .accepted c ↔
      (operator.needsOperand = true → operand ≠ .null) ∧
        c = .field space path operator operand := by
  unfold withOperand
  split
  · rename_i h
    rw [Bool.and_eq_true, isNull_iff] at h
    exact iff_of_false reject_ne_accepted fun hc => hc.1 h.1 h.2
  · rename_i h
    rw [Bool.and_eq_true, isNull_iff, not_and] at h
    rw [accepted.injEq, eq_comm]
    exact (and_iff_right h).symm

/-- The members of an object give the parts of a field condition. -/
theorem checkField_eq_accepted {space : Space} {ms : Members} {c : Condition}
    (h : Value.memberOf? ms (.text "type") = some (.text space.name)) :
    checkField space ms = .accepted c ↔
      ∃ path operator operand,
        GivesOr ms "field" none TextOrNull path ∧
        GivesOr ms "operator" .equals (fun v o => TextIs v o.name) operator ∧
        GivesOr ms "value" .null Eq operand ∧
        (operator.needsOperand = true → operand ≠ .null) ∧
        c = .field space path operator operand := by
  have hpath (path : Option String) : Schema.optional ms "field" none (nullable text) =
      .accepted path ↔ GivesOr ms "field" none TextOrNull path :=
    optional_eq_accepted fun _ => nullable_text_eq_accepted
  have hoperator (operator : Operator) : Schema.optional ms "operator" .equals
      (enumeration (Operator.all.map fun o => (o.name, o))) = .accepted operator ↔
        GivesOr ms "operator" .equals (fun v o => TextIs v o.name) operator :=
    optional_eq_accepted fun _ => operator_eq_accepted
  have hoperand (operand : Value) : Schema.optional ms "value" .null anything =
      .accepted operand ↔ GivesOr ms "value" .null Eq operand :=
    optional_eq_accepted fun v => by rw [anything, accepted.injEq]
  simp only [checkField, andThen_eq_accepted, both_eq_accepted, Prod.exists, hpath, hoperator,
    hoperand, tagMember_eq_accepted h, withOperand_eq_accepted, and_assoc]
  simp

/-- The members of an object give an expression. -/
theorem checkExpression_eq_accepted {ms : Members} {c : Condition}
    (h : Value.memberOf? ms (.text "type") = some (.text expressionTag)) :
    checkExpression ms = .accepted c ↔
      ∃ text, Gives ms "jq_expression" WholeTextIs text ∧ text ≠ "" ∧ c = .expression text := by
  simp only [checkExpression, map_eq_accepted, both_eq_accepted, Prod.exists, filled_eq_accepted,
    tagMember_eq_accepted h]
  simp [and_assoc, eq_comm]

theorem checkVariant?_space (space : Space) :
    checkVariant? space.name = some (checkField space) := by
  cases space <;> rfl

/-- The variants are those of the parts of a message, and expressions. -/
theorem eq_of_checkVariant? {tag : String} {variant : Members → Checked Condition}
    (h : checkVariant? tag = some variant) :
    (tag = expressionTag ∧ variant = checkExpression) ∨
      ∃ space : Space, tag = space.name ∧ variant = checkField space := by
  unfold checkVariant? at h
  split at h
  · cases h
    exact .inl ⟨‹_›, rfl⟩
  · obtain ⟨space, hspace, rfl⟩ := Option.map_eq_some_iff.1 h
    have hname := List.find?_some hspace
    exact .inr ⟨space, (of_decide_eq_true hname).symm, rfl⟩

section Checks

variable [Interpreter]

theorem describes_of_check {v : Value} {c : Condition} (h : check v = .accepted c) :
    Describes v c := by
  unfold check at h
  split at h
  · rename_i ms
    split at h
    · exact absurd h reject_ne_accepted
    · rename_i t ht
      dsimp only at h
      split at h
      · rename_i tag
        split at h
        · rename_i variant hvariant
          rw [within_eq_accepted] at h
          rcases eq_of_checkVariant? hvariant with ⟨rfl, rfl⟩ | ⟨space, rfl, rfl⟩
          · obtain ⟨text, hgiven, hfilled, rfl⟩ := (checkExpression_eq_accepted ht).1 h
            exact .expression ht hgiven hfilled
          · obtain ⟨path, operator, operand, hpath, hoperator, hoperand, hpresent, rfl⟩ :=
              (checkField_eq_accepted ht).1 h
            exact .field ht hpath hoperator hoperand hpresent
        · exact absurd h reject_ne_accepted
      · exact absurd h reject_ne_accepted
  · exact absurd h reject_ne_accepted

theorem check_of_describes {v : Value} {c : Condition} (h : Describes v c) :
    check v = .accepted c := by
  cases h with
  | @field ms space path operator operand variant path_given operator_given operand_given
      present =>
    simp only [check, variant, checkVariant?_space, within_eq_accepted]
    exact (checkField_eq_accepted variant).2
      ⟨path, operator, operand, path_given, operator_given, operand_given, present, rfl⟩
  | @expression ms text variant given filled =>
    simp only [check, variant]
    exact within_eq_accepted.2
      ((checkExpression_eq_accepted variant).2 ⟨text, given, filled, rfl⟩)

/-- **A check of conditions accepts exactly what describes one.** -/
theorem check_eq_accepted_iff {v : Value} {c : Condition} :
    check v = .accepted c ↔ Describes v c :=
  ⟨describes_of_check, check_of_describes⟩

end Checks

end Condition

/-! ## Rules -/

namespace Transform

/-- What describes a transform. -/
def Describes (v : Value) (t : Transform) : Prop :=
  ∃ ms, v = .object ms ∧
    GivesOr ms "enabled" true (fun v b => boolean v = .accepted b) t.enabled ∧
    Gives ms "jq_expression" WholeTextIs t.expression ∧ t.expression ≠ ""

/-- A check of transforms accepts exactly what describes one. -/
theorem check_eq_accepted_iff {v : Value} {t : Transform} :
    check v = .accepted t ↔ Describes v t := by
  have henabled (ms : Members) (b : Bool) : Schema.optional ms "enabled" true boolean =
      .accepted b ↔ GivesOr ms "enabled" true (fun v b => boolean v = .accepted b) b :=
    optional_eq_accepted fun _ => Iff.rfl
  simp only [check, record_eq_accepted, Describes, seq_eq_accepted, functor_map_eq_accepted,
    henabled, filled_eq_accepted]
  constructor
  · rintro ⟨ms, rfl, -, s, ⟨b, hb, rfl⟩, ⟨hv, hs⟩, rfl⟩
    exact ⟨ms, rfl, hb, hv, hs⟩
  · rintro ⟨ms, rfl, hb, hv, hs⟩
    exact ⟨ms, rfl, _, _, ⟨_, hb, rfl⟩, ⟨hv, hs⟩, rfl⟩

end Transform

namespace Rule

/-- What the members of an object say when they describe a rule. -/
structure DescribedBy (ms : Members) (r : Rule) : Prop where
  /-- It has a name. -/
  name : Gives ms "name" WholeTextIs r.name
  /-- The name is not empty. -/
  named : r.name ≠ ""
  /-- What it is for. -/
  description : GivesOr ms "description" none TextOrNull r.description
  /-- Whether it takes part. -/
  enabled : GivesOr ms "enabled" true (fun v b => boolean v = .accepted b) r.enabled
  /-- Its priority. -/
  priority : GivesOr ms "priority" usualPriority (fun v n => integer v = .accepted n) r.priority
  /-- Its conditions, one for each item. -/
  conditions : GivesOr ms "conditions" [] (ItemsAre Condition.Describes) r.conditions
  /-- How they are combined. -/
  combination : GivesOr ms "condition_operator" .all (fun v c => TextIs v c.name) r.combination
  /-- Its transform, if it has one. -/
  transform : GivesOr ms "transform" none
    (fun v o => v = .null ∧ o = none ∨ ∃ t, o = some t ∧ Transform.Describes v t) r.transform
  /-- It has a destination. -/
  destination : Gives ms "destination" WholeTextIs r.destination
  /-- The destination is not empty. -/
  directed : r.destination ≠ ""

/-- What describes a rule. -/
def Describes (v : Value) (r : Rule) : Prop := ∃ ms, v = .object ms ∧ DescribedBy ms r

/-- What describes a rule gives its name. -/
theorem Describes.name {v : Value} {r : Rule} (h : Describes v r) :
    (v.get? "name").bind wholeText? = some r.name := by
  obtain ⟨ms, rfl, hms⟩ := h
  obtain ⟨w, hw, hname⟩ := hms.name
  exact Option.bind_eq_some_iff.2 ⟨w, hw, hname⟩

/-- Items describe rules, one each, exactly if each of them describes one on its own. -/
theorem exists_forall₂_describes_iff {vs : List Value} :
    (∃ rules, List.Forall₂ Describes vs rules) ↔ ∀ v ∈ vs, ∃ r, Describes v r := by
  induction vs with
  | nil => simp
  | cons v vs ih =>
    rw [List.forall_mem_cons, ← ih]
    constructor
    · rintro ⟨_, hall⟩
      cases hall with
      | cons hv hvs => exact ⟨⟨_, hv⟩, _, hvs⟩
    · rintro ⟨⟨r, hr⟩, rules, hrules⟩
      exact ⟨r :: rules, .cons hr hrules⟩

theorem transform_eq_accepted {v : Value} {o : Option Transform} :
    nullable Transform.check v = .accepted o ↔
      v = .null ∧ o = none ∨ ∃ t, o = some t ∧ Transform.Describes v t := by
  simp only [nullable_eq_accepted, Transform.check_eq_accepted_iff]
  refine or_congr_right (and_iff_right_of_imp ?_)
  rintro ⟨t, -, ms, rfl, -⟩
  simp

theorem combination_eq_accepted {v : Value} {c : Combination} :
    enumeration [(Combination.all.name, .all), (Combination.any.name, .any)] v = .accepted c ↔
      TextIs v c.name := by
  have hall : [(Combination.all.name, Combination.all), (Combination.any.name, .any)] =
      [Combination.all, .any].map fun c => (c.name, c) := rfl
  rw [hall]
  exact enumeration_eq_accepted (by cases c <;> decide) (by cases c <;> decide)

section Checks

variable [Interpreter]

/-- **A check of rules accepts exactly what describes one.** -/
theorem check_eq_accepted_iff {v : Value} {r : Rule} : check v = .accepted r ↔ Describes v r := by
  rw [check, record_eq_accepted, Describes]
  refine exists_congr fun ms => and_congr_right fun _ => ?_
  -- what each member has to give
  have hdescription (o : Option String) : Schema.optional ms "description" none (nullable text) =
      .accepted o ↔ GivesOr ms "description" none TextOrNull o :=
    optional_eq_accepted fun _ => nullable_text_eq_accepted
  have henabled (b : Bool) : Schema.optional ms "enabled" true boolean = .accepted b ↔
      GivesOr ms "enabled" true (fun v b => boolean v = .accepted b) b :=
    optional_eq_accepted fun _ => Iff.rfl
  have hpriority (n : Int) : Schema.optional ms "priority" usualPriority integer = .accepted n ↔
      GivesOr ms "priority" usualPriority (fun v n => integer v = .accepted n) n :=
    optional_eq_accepted fun _ => Iff.rfl
  have hconditions (cs : List Condition) : Schema.optional ms "conditions" []
      (listOf Condition.check) = .accepted cs ↔
        GivesOr ms "conditions" [] (ItemsAre Condition.Describes) cs :=
    optional_eq_accepted fun _ => listOf_eq_accepted fun _ _ => Condition.check_eq_accepted_iff
  have hcombination (c : Combination) : Schema.optional ms "condition_operator" .all
      (enumeration [(Combination.all.name, .all), (Combination.any.name, .any)]) = .accepted c ↔
        GivesOr ms "condition_operator" .all (fun v c => TextIs v c.name) c :=
    optional_eq_accepted fun _ => combination_eq_accepted
  have htransform (o : Option Transform) : Schema.optional ms "transform" none
      (nullable Transform.check) = .accepted o ↔ GivesOr ms "transform" none
        (fun v o => v = .null ∧ o = none ∨ ∃ t, o = some t ∧ Transform.Describes v t) o :=
    optional_eq_accepted fun _ => transform_eq_accepted
  simp only [seq_eq_accepted, functor_map_eq_accepted, filled_eq_accepted, hdescription, henabled,
    hpriority, hconditions, hcombination, htransform]
  constructor
  · rintro ⟨-, _, ⟨-, _, ⟨-, _, ⟨-, _, ⟨-, _, ⟨-, _, ⟨-, _, ⟨_, hname, rfl⟩, hdescribed, rfl⟩,
      henabled', rfl⟩, hpriority', rfl⟩, hconditions', rfl⟩, hcombination', rfl⟩, htransform', rfl⟩,
      hdestination, rfl⟩
    exact ⟨hname.1, hname.2, hdescribed, henabled', hpriority', hconditions', hcombination',
      htransform', hdestination.1, hdestination.2⟩
  · intro h
    exact ⟨_, _, ⟨_, _, ⟨_, _, ⟨_, _, ⟨_, _, ⟨_, _, ⟨_, _, ⟨_, ⟨h.name, h.named⟩, rfl⟩,
      h.description, rfl⟩, h.enabled, rfl⟩, h.priority, rfl⟩, h.conditions, rfl⟩, h.combination,
      rfl⟩, h.transform, rfl⟩, ⟨h.destination, h.directed⟩, rfl⟩

theorem listOf_check_eq_accepted {v : Value} {rules : List Rule} :
    listOf check v = .accepted rules ↔ ItemsAre Describes v rules :=
  listOf_eq_accepted fun _ _ => check_eq_accepted_iff

/-- Data describes at most one rule. -/
theorem Describes.unique {v : Value} {r s : Rule} (hr : Describes v r) (hs : Describes v s) :
    r = s := by
  have h := (check_eq_accepted_iff.2 hr).symm.trans (check_eq_accepted_iff.2 hs)
  exact accepted.inj h

/-- Rules are described one by one exactly if the check accepts them one by one. -/
theorem forall₂_describes_iff {vs : List Value} {rules : List Rule} :
    List.Forall₂ Describes vs rules ↔ vs.map check = rules.map accepted := by
  have h : Describes = fun v r => check v = accepted r := by
    funext v r
    exact propext check_eq_accepted_iff.symm
  rw [h, ← List.forall₂_eq_eq_eq, List.forall₂_map_left_iff, List.forall₂_map_right_iff]

/-- Described rules are well formed. -/
theorem wellFormed_of_describes {vs : List Value} {rules : List Rule}
    (h : List.Forall₂ Describes vs rules) : ∀ r ∈ rules, r.wellFormed = true := by
  induction h with
  | nil => simp
  | cons hr _ ih =>
    exact List.forall_mem_cons.2 ⟨wellFormed_of_check (check_eq_accepted_iff.2 hr), ih⟩

end Checks

end Rule

/-! ## Rule sets -/

namespace Value

variable {ms : List (Scalar × Value)} {name other : String} {v : Value}

/-- Members that keep their names are found where they were. -/
theorem memberOf?_map {f : Scalar × Value → Scalar × Value} (hf : ∀ m, (f m).1 = m.1) {s : Scalar} :
    memberOf? (ms.map f) s = (ms.find? fun m => m.1.sameName s).map fun m => (f m).2 := by
  have hcomp : (fun m : Scalar × Value => m.1.sameName s) ∘ f = fun m => m.1.sameName s := by
    funext m
    simp only [Function.comp, hf]
  rw [memberOf?, List.find?_map, hcomp, Option.map_map]
  rfl

/-- A member that was set is there. -/
theorem memberOf?_setMember_self :
    memberOf? (setMember ms (.text name) v) (.text name) = some v := by
  unfold setMember
  split
  · rename_i hany
    rw [memberOf?_map (by intro m; split <;> rfl)]
    obtain ⟨m, hm⟩ := Option.isSome_iff_exists.1 (List.find?_isSome.2 (List.any_eq_true.1 hany))
    have hname : m.1.sameName (.text name) = true := by simpa using List.find?_some hm
    rw [hm, Option.map_some, if_pos hname]
  · rename_i hany
    have hnone : ms.find? (fun m => m.1.sameName (.text name)) = none :=
      List.find?_eq_none.2 fun m hm hname => hany (List.any_eq_true.2 ⟨m, hm, hname⟩)
    have hself : (Scalar.text name).sameName (.text name) = true := Scalar.sameName_text_iff.2 rfl
    simp [memberOf?, List.find?_append, hnone, hself]

/-- The other members stay. -/
theorem memberOf?_setMember_of_ne (hne : other ≠ name) :
    memberOf? (setMember ms (.text name) v) (.text other) = memberOf? ms (.text other) := by
  unfold setMember
  split
  · rw [memberOf?_map (by intro m; split <;> rfl), memberOf?]
    refine Option.map_congr fun m hm => ?_
    have hsame : m.1.sameName (.text other) = true := by simpa using List.find?_some hm
    rw [if_neg]
    rw [Scalar.sameName_text_iff.1 hsame, Scalar.sameName_text_iff]
    simpa using hne
  · have hname : ¬(Scalar.text name).sameName (.text other) = true := fun h =>
      hne (Scalar.text.inj (Scalar.sameName_text_iff.1 h)).symm
    simp [memberOf?, List.find?_append, hname]

end Value

namespace RuleSet

/-- No name is repeated among different names that are new. -/
theorem firstRepeated_eq_none_iff {seen names : List String} :
    firstRepeated seen names = none ↔ names.Nodup ∧ ∀ n ∈ names, n ∉ seen := by
  induction names generalizing seen with
  | nil => simp [firstRepeated]
  | cons n names ih =>
    rw [firstRepeated]
    by_cases hn : n ∈ seen
    · simp [hn]
    · simp only [List.contains_iff_mem, hn, if_false, ih, List.nodup_cons, List.mem_cons,
        not_or]
      constructor
      · rintro ⟨hnames, hnew⟩
        refine ⟨⟨fun h => (hnew n h).1 rfl, hnames⟩, ?_⟩
        rintro m (rfl | hm)
        · exact hn
        · exact (hnew m hm).2
      · rintro ⟨⟨hfresh, hnames⟩, hnew⟩
        exact ⟨hnames, fun m hm => ⟨ne_of_mem_of_not_mem hm hfresh, hnew m (.inr hm)⟩⟩

/-- A repeated name was seen, or it stands twice. -/
theorem of_firstRepeated {seen names : List String} {n : String}
    (h : firstRepeated seen names = some n) : n ∈ names ∧ (n ∈ seen ∨ 2 ≤ names.count n) := by
  induction names generalizing seen with
  | nil => cases h
  | cons m names ih =>
    rw [firstRepeated] at h
    split at h
    · rename_i hm
      cases h
      exact ⟨List.mem_cons_self, .inl (List.contains_iff_mem.1 hm)⟩
    · obtain ⟨hn, hseen⟩ := ih h
      refine ⟨List.mem_cons_of_mem _ hn, ?_⟩
      have hpos : 0 < names.count n := List.count_pos_iff.2 hn
      rw [List.count_cons]
      rcases hseen with hseen | hcount
      · rcases List.mem_cons.1 hseen with rfl | hseen
        · refine .inr ?_
          rw [if_pos (beq_self_eq_true n)]
          omega
        · exact .inl hseen
      · exact .inr (by omega)

theorem uniquelyNamed_eq_accepted {rules rules' : List Rule} :
    uniquelyNamed rules = .accepted rules' ↔ rules' = rules ∧ (rules.map (·.name)).Nodup := by
  unfold uniquelyNamed
  split
  · rename_i name h
    refine iff_of_false reject_ne_accepted fun hrules => ?_
    rw [firstRepeated_eq_none_iff.2 ⟨hrules.2, by simp⟩] at h
    cases h
  · rename_i h
    rw [accepted.injEq, eq_comm]
    exact (and_iff_left (firstRepeated_eq_none_iff.1 h).1).symm

/-- What the members of an object say when they describe a rule set. -/
structure DescribedBy (ms : Members) (set : RuleSet) : Prop where
  /-- Its version. -/
  version : GivesOr ms "version" "1.0" TextIs set.version
  /-- Its rules, one for each item. -/
  rules : GivesOr ms "rules" [] (ItemsAre Rule.Describes) set.rules
  /-- Their names differ. -/
  distinct : (set.rules.map (·.name)).Nodup

/-- What describes a rule set: an object, or the list of its rules. -/
def Describes (v : Value) (set : RuleSet) : Prop := ∃ ms, membersOf v = some ms ∧ DescribedBy ms set

section Checks

variable [Interpreter]

theorem checkMembers_eq_accepted {ms : Members} {set : RuleSet} :
    checkMembers ms = .accepted set ↔ DescribedBy ms set := by
  have hversion (s : String) : Schema.optional ms "version" "1.0" text = .accepted s ↔
      GivesOr ms "version" "1.0" TextIs s :=
    optional_eq_accepted fun _ => text_eq_accepted
  have hrules (rules : List Rule) : Schema.optional ms "rules" []
      (fun v => (listOf Rule.check v).andThen uniquelyNamed) = .accepted rules ↔
        GivesOr ms "rules" [] (fun v rs =>
          ItemsAre Rule.Describes v rs ∧ (rs.map (·.name)).Nodup) rules :=
    optional_eq_accepted fun v => by
      simp only [andThen_eq_accepted, uniquelyNamed_eq_accepted,
        Rule.listOf_check_eq_accepted]
      constructor
      · rintro ⟨_, hlist, rfl, hnames⟩
        exact ⟨hlist, hnames⟩
      · rintro ⟨hlist, hnames⟩
        exact ⟨_, hlist, rfl, hnames⟩
  simp only [checkMembers, seq_eq_accepted, functor_map_eq_accepted, hversion, hrules]
  constructor
  · rintro ⟨-, rules, ⟨version, hv, rfl⟩, ⟨w, hw, hlist, hnames⟩ | ⟨hw, rfl⟩, rfl⟩
    · exact ⟨hv, .inl ⟨w, hw, hlist⟩, hnames⟩
    · exact ⟨hv, .inr ⟨hw, rfl⟩, List.nodup_nil⟩
  · intro h
    refine ⟨_, _, ⟨_, h.version, rfl⟩, ?_, rfl⟩
    rcases h.rules with ⟨w, hw, hlist⟩ | hnone
    · exact .inl ⟨w, hw, hlist, h.distinct⟩
    · exact .inr hnone

/-- **Exactly the data that describes a rule set gives one.** -/
theorem ofValue_eq_ok_iff {v : Value} {set : RuleSet} : ofValue v = .ok set ↔ Describes v set := by
  unfold ofValue Describes
  cases membersOf v with
  | none => simp
  | some ms =>
    simp only [Option.some.injEq, exists_eq_left', ← checkMembers_eq_accepted]
    cases checkMembers ms with
    | accepted s => simp
    | rejected cs => simp

/-- Data that describes no rule set is an object or a list with parts that do not fit, or
neither. -/
theorem exists_complaints {v : Value} {ms : Members} (hms : membersOf v = some ms)
    (h : ¬∃ set, Describes v set) : ∃ complaints, ofValue v = .error (.invalid complaints) := by
  cases hv : ofValue v with
  | ok set => exact absurd ⟨set, ofValue_eq_ok_iff.1 hv⟩ h
  | error f =>
    unfold ofValue at hv
    rw [hms] at hv
    dsimp only at hv
    split at hv
    · cases hv
    · cases hv
      exact ⟨_, rfl⟩

end Checks

/-! ### Repeated rules -/

/-- The items that data gives for the rules of a rule set; none if it gives no items. -/
def inputs (v : Value) : List Value :=
  (((membersOf v).bind fun ms => Value.memberOf? ms (.text "rules")).bind itemsOf?).getD []

/-- Data with another list for the rules. -/
def withInputs : Value → List Value → Value
  | .object ms, vs => .object (Value.setMember ms (.text "rules") (.list vs))
  | _, vs => .list vs

/-- Each rule of a rule set is described by an item of the data. -/
theorem Describes.forall₂_inputs {v : Value} {set : RuleSet} (h : Describes v set) :
    List.Forall₂ Rule.Describes (inputs v) set.rules := by
  obtain ⟨ms, hms, hset⟩ := h
  rcases hset.rules with ⟨w, hw, vs, hitems, hvs⟩ | ⟨hnone, hrules⟩
  · have hinputs : inputs v = vs := by simp [inputs, hms, hw, hitems]
    rw [hinputs]
    exact hvs
  · have hinputs : inputs v = [] := by simp [inputs, hms, hnone]
    rw [hinputs, hrules]
    exact .nil

/-- Another list for the rules changes nothing else. -/
theorem exists_membersOf_withInputs {v : Value} {ms : Members} (h : membersOf v = some ms)
    (vs : List Value) : ∃ ns, membersOf (withInputs v vs) = some ns ∧
      Value.memberOf? ns (.text "rules") = some (.list vs) ∧
      Value.memberOf? ns (.text "version") = Value.memberOf? ms (.text "version") := by
  unfold membersOf at h
  split at h
  · cases h
    exact ⟨_, rfl, Value.memberOf?_setMember_self, Value.memberOf?_setMember_of_ne (by decide)⟩
  · cases h
    exact ⟨_, rfl, rfl, rfl⟩
  · cases h

/-- The first repeated name is the only one that can be. -/
theorem firstRepeated_insert {front back : List String} {n : String}
    (hnodup : (front ++ back).Nodup) (hn : n ∈ front ++ back) :
    firstRepeated [] (front ++ n :: back) = some n := by
  have hcount (m : String) : (front ++ n :: back).count m =
      (front ++ back).count m + if n = m then 1 else 0 := by
    simp [List.count_append, List.count_cons, Nat.add_assoc]
  cases h : firstRepeated [] (front ++ n :: back) with
  | none =>
    have hone := List.nodup_iff_count.1 (firstRepeated_eq_none_iff.1 h).1 n
    have hpos := List.count_pos_iff.2 hn
    rw [hcount, if_pos rfl] at hone
    omega
  | some m =>
    obtain ⟨-, hseen | htwice⟩ := of_firstRepeated h
    · cases hseen
    · have hone := List.nodup_iff_count.1 hnodup m
      rw [hcount] at htwice
      split at htwice
      · rename_i hm
        rw [hm]
      · omega

theorem uniquelyNamed_insert {before after : List Rule} {s : Rule}
    (hnodup : ((before ++ after).map (·.name)).Nodup)
    (hs : s.name ∈ (before ++ after).map (·.name)) :
    uniquelyNamed (before ++ s :: after) =
      .reject (.rule ("Duplicate rule name '" ++ s.name ++ "'")) := by
  rw [List.map_append] at hnodup hs
  rw [uniquelyNamed, List.map_append, List.map_cons, firstRepeated_insert hnodup hs]

/-- The text about a name that two rules have. -/
def repeatedName (name : String) : List Complaint :=
  [⟨[.member "rules"], .rule ("Duplicate rule name '" ++ name ++ "'")⟩]

section Repeated

variable {v w : Value} {set : RuleSet} {r s : Rule} {front back : List Value}

/-- Data with an item that describes no rule describes no rule set. -/
theorem not_describes_withInputs {ms : Members} (hms : membersOf v = some ms)
    (hw : ¬∃ s, Rule.Describes w s) :
    ¬∃ set, Describes (withInputs v (front ++ w :: back)) set := by
  rintro ⟨set, hset⟩
  have hitems := hset.forall₂_inputs
  obtain ⟨ns, hns, hgiven, -⟩ := exists_membersOf_withInputs hms (front ++ w :: back)
  have hinputs : inputs (withInputs v (front ++ w :: back)) = front ++ w :: back := by
    simp [inputs, hns, hgiven, itemsOf?]
  rw [hinputs] at hitems
  exact hw (Rule.exists_forall₂_describes_iff.1 ⟨_, hitems⟩ w (by simp))

variable [Interpreter]

/-- A further rule under a name that is there is told by its name. -/
theorem Describes.ofValue_repeated (h : Describes v set) (hinputs : inputs v = front ++ back)
    (hr : r ∈ set.rules) (hs : Rule.Describes w s) (hname : s.name = r.name) :
    ofValue (withInputs v (front ++ w :: back)) = .error (.invalid (repeatedName r.name)) := by
  have hrules := h.forall₂_inputs
  obtain ⟨ms, hms, hset⟩ := h
  obtain ⟨ns, hns, hgiven, hversion⟩ := exists_membersOf_withInputs hms (front ++ w :: back)
  -- the rules before and after the further one
  rw [hinputs, Rule.forall₂_describes_iff, List.map_append, eq_comm, List.map_eq_append_iff]
    at hrules
  obtain ⟨before, after, hall, hbefore, hafter⟩ := hrules
  have hlist : listOf Rule.check (.list (front ++ w :: back)) =
      .accepted (before ++ s :: after) := by
    refine Rule.listOf_check_eq_accepted.2 ⟨_, rfl, ?_⟩
    rw [Rule.forall₂_describes_iff, List.map_append, List.map_append, List.map_cons,
      List.map_cons, hbefore, hafter, Rule.check_eq_accepted_iff.2 hs]
  have hunique := hset.distinct
  rw [hall] at hr hunique
  have hmem : s.name ∈ (before ++ after).map (·.name) := hname ▸ List.mem_map_of_mem hr
  have hversion' : Schema.optional ns "version" "1.0" text = .accepted set.version := by
    have hgives : GivesOr ns "version" "1.0" TextIs set.version := by
      simpa only [GivesOr, Gives, hversion] using hset.version
    exact (optional_eq_accepted fun _ => text_eq_accepted).2 hgives
  have hcheck : checkMembers ns = .rejected (repeatedName r.name) := by
    rw [checkMembers, hversion', Schema.optional, hgiven]
    dsimp only
    rw [hlist, andThen, uniquelyNamed_insert hunique hmem, hname]
    rfl
  rw [ofValue, hns]
  dsimp only
  rw [hcheck]

/-- **A rule set is refused with a further rule under a name that is there**, for that name if the
rule is one. -/
theorem Describes.refused (h : Describes v set) (hinputs : inputs v = front ++ back)
    (hr : r ∈ set.rules) (hw : (w.get? "name").bind wholeText? = some r.name) :
    ∃ complaints, ofValue (withInputs v (front ++ w :: back)) = .error (.invalid complaints) ∧
      ∀ s, Rule.Describes w s → complaints = repeatedName r.name := by
  by_cases hdescribed : ∃ s, Rule.Describes w s
  · obtain ⟨s, hs⟩ := hdescribed
    have hname : s.name = r.name := by
      have hget := hs.name
      rw [hw] at hget
      simpa using hget.symm
    exact ⟨_, h.ofValue_repeated hinputs hr hs hname, fun _ _ => rfl⟩
  · obtain ⟨ms, hms, -⟩ := h
    obtain ⟨ns, hns, -⟩ := exists_membersOf_withInputs hms (front ++ w :: back)
    obtain ⟨complaints, hcomplaints⟩ :=
      exists_complaints hns (not_describes_withInputs hms hdescribed)
    exact ⟨complaints, hcomplaints, fun s hs => absurd ⟨s, hs⟩ hdescribed⟩

end Repeated

/-- **What a rule set is read from describes it, and nothing else is read.** The rules are those of
the items of the data in their order, all well formed and with different names. The data with a
further item under one of the names, anywhere in the list, gives no rule set. Data that describes
none fails as content that does not fit. -/
theorem ofValue_exact [Interpreter] (v : Value) :
    (∀ set, ofValue v = .ok set ↔ Describes v set) ∧
    (∀ set, ofValue v = .ok set →
      List.Forall₂ Rule.Describes (inputs v) set.rules ∧
      (set.rules.map (·.name)).Nodup ∧
      (∀ r ∈ set.rules, r.wellFormed = true) ∧
      ∀ front back w, inputs v = front ++ back →
        ∀ r ∈ set.rules, (w.get? "name").bind wholeText? = some r.name →
          ∃ complaints, ofValue (withInputs v (front ++ w :: back)) = .error (.invalid complaints) ∧
            ∀ s, Rule.Describes w s → complaints =
              [⟨[.member "rules"], .rule ("Duplicate rule name '" ++ r.name ++ "'")⟩]) ∧
    ∀ f, ofValue v = .error f →
      (FileFault.content f).name = "ConfigurationError" ∧ ¬∃ set, Describes v set := by
  refine ⟨fun _ => ofValue_eq_ok_iff, fun set h => ?_, fun f h => ⟨rfl, ?_⟩⟩
  · have hset := ofValue_eq_ok_iff.1 h
    have hdistinct : (set.rules.map (·.name)).Nodup := by
      obtain ⟨_, -, hms⟩ := hset
      exact hms.distinct
    exact ⟨hset.forall₂_inputs, hdistinct, wellFormed_of_ofValue h,
      fun _ _ _ hinputs _ hr hw => hset.refused hinputs hr hw⟩
  · rintro ⟨set, hset⟩
    rw [ofValue_eq_ok_iff.2 hset] at h
    cases h

/-- Two rules, one of them with a condition and a transform. -/
def orders : Value := .record [("version", .text "2.0"), ("rules", .list [
  .record [("name", .text "large"), ("destination", .text "archive"), ("priority", .text " 7 "),
    ("conditions", .list [
      .record [("type", .text "header"), ("field", .text "id"), ("operator", .text "contains"),
        ("value", .int 12)]]),
    ("transform", .record [("enabled", .bool false), ("jq_expression", .text ".")])],
  .record [("name", .text "rest"), ("destination", .text "orders")]])]

/-- The second rule again, with another destination. -/
def restAgain : Value := .record [("name", .text "rest"), ("destination", .text "elsewhere")]

section

open scoped Interpreter.Usual

theorem ofValue_exact_orders : ∃ set, ofValue orders = .ok set ∧
    set.rules.map (·.name) = ["large", "rest"] ∧
    List.Forall₂ Rule.Describes (inputs orders) set.rules ∧
    ∃ complaints, ofValue (withInputs orders (restAgain :: inputs orders)) =
      .error (.invalid complaints) := by
  obtain ⟨set, hset, hnames⟩ : ∃ set, ofValue orders = .ok set ∧
      set.rules.map (·.name) = ["large", "rest"] := ⟨_, rfl, rfl⟩
  obtain ⟨-, hread, -⟩ := ofValue_exact orders
  obtain ⟨hrules, -, -, hrefused⟩ := hread set hset
  have hrest : "rest" ∈ set.rules.map (·.name) := by
    rw [hnames]
    decide
  obtain ⟨r, hr, hname⟩ := List.mem_map.1 hrest
  obtain ⟨complaints, hcomplaints, -⟩ := hrefused [] (inputs orders) restAgain rfl r hr (by
    rw [hname]
    rfl)
  exact ⟨set, hset, hnames, hrules, complaints, hcomplaints⟩

end

end RuleSet

end MessageRouting
