import MessageRouting.RuleSet

/-!
# What accepted data is like

A check that accepts a value has accepted its parts, so what holds of every accepted part holds of
the parts of an accepted whole. All conditions that are accepted are well formed, and so are all
rules (`Rule.wellFormed_of_check`), also those of a rule set (`RuleSet.wellFormed_of_ofValue`).
-/

namespace MessageRouting

open Schema

namespace Schema

/-! ## Combinations of checks -/

namespace Checked

variable {α β : Type}

theorem map_eq_accepted {f : α → β} {c : Checked α} {b : β} :
    c.map f = .accepted b ↔ ∃ a, c = .accepted a ∧ f a = b := by
  cases c <;> simp [map]

theorem both_eq_accepted {c : Checked α} {d : Checked β} {p : α × β} :
    c.both d = .accepted p ↔ c = .accepted p.1 ∧ d = .accepted p.2 := by
  obtain ⟨a, b⟩ := p
  cases c <;> cases d <;> simp [both]

theorem andThen_eq_accepted {c : Checked α} {f : α → Checked β} {b : β} :
    c.andThen f = .accepted b ↔ ∃ a, c = .accepted a ∧ f a = .accepted b := by
  cases c <;> simp [andThen]

theorem within_eq_accepted {step : PlaceStep} {c : Checked α} {a : α} :
    c.within step = .accepted a ↔ c = .accepted a := by
  cases c <;> simp [within]

theorem reject_ne_accepted {cause : Cause} {a : α} : reject cause ≠ .accepted a := by
  simp [reject]

theorem functor_map_eq_accepted {f : α → β} {c : Checked α} {b : β} :
    f <$> c = .accepted b ↔ ∃ a, c = .accepted a ∧ f a = b := map_eq_accepted

theorem seq_eq_accepted {f : Checked (α → β)} {c : Checked α} {b : β} :
    f <*> c = .accepted b ↔ ∃ g a, f = .accepted g ∧ c = .accepted a ∧ g a = b := by
  constructor
  · intro h
    obtain ⟨⟨g, a⟩, hboth, hga⟩ := map_eq_accepted.1 h
    obtain ⟨hg, ha⟩ := both_eq_accepted.1 hboth
    exact ⟨g, a, hg, ha, hga⟩
  · rintro ⟨g, a, rfl, rfl, rfl⟩
    rfl

end Checked

open Checked

variable {α : Type} {ms : Members} {name : String} {check : Check α} {a : α}

theorem of_required (h : required ms name check = .accepted a) : ∃ v, check v = .accepted a := by
  unfold required at h
  split at h
  · exact ⟨_, within_eq_accepted.1 h⟩
  · cases h

theorem of_optional {default : α} (h : optional ms name default check = .accepted a) :
    a = default ∨ ∃ v, check v = .accepted a := by
  unfold optional at h
  split at h
  · exact .inr ⟨_, within_eq_accepted.1 h⟩
  · cases h
    exact .inl rfl

theorem of_record {kind : String} {check : Members → Checked α} {v : Value}
    (h : record kind check v = .accepted a) : ∃ ms, v = .object ms ∧ check ms = .accepted a := by
  unfold record at h
  split at h
  · exact ⟨_, rfl, h⟩
  · exact absurd h reject_ne_accepted

theorem of_nullable {v : Value} {o : Option α} (h : nullable check v = .accepted o) :
    o = none ∨ ∃ a, o = some a ∧ check v = .accepted a := by
  unfold nullable at h
  split at h
  · cases h
    exact .inl rfl
  · obtain ⟨a, ha, rfl⟩ := map_eq_accepted.1 h
    exact .inr ⟨a, rfl, ha⟩

theorem of_itemsFrom {i : Nat} {vs : List Value} {as : List α}
    (h : itemsFrom check i vs = .accepted as) : ∀ a ∈ as, ∃ v ∈ vs, check v = .accepted a := by
  induction vs generalizing i as with
  | nil =>
    cases h
    simp
  | cons v vs ih =>
    obtain ⟨⟨a, rest⟩, hboth, rfl⟩ := map_eq_accepted.1 h
    obtain ⟨ha, hrest⟩ := both_eq_accepted.1 hboth
    intro b hb
    rcases List.mem_cons.1 hb with rfl | hb
    · exact ⟨v, List.mem_cons_self, within_eq_accepted.1 ha⟩
    · obtain ⟨w, hw, hcheck⟩ := ih hrest b hb
      exact ⟨w, List.mem_cons_of_mem _ hw, hcheck⟩

/-- Items that are accepted are so one by one. -/
theorem forall_of_itemsFrom {i : Nat} {vs : List Value} {as : List α}
    (h : itemsFrom check i vs = .accepted as) : ∀ v ∈ vs, ∃ a, check v = .accepted a := by
  induction vs generalizing i as with
  | nil => simp
  | cons v vs ih =>
    obtain ⟨⟨a, rest⟩, hboth, -⟩ := map_eq_accepted.1 h
    obtain ⟨ha, hrest⟩ := both_eq_accepted.1 hboth
    exact List.forall_mem_cons.2 ⟨⟨a, within_eq_accepted.1 ha⟩, ih hrest⟩

theorem of_listOf {v : Value} {as : List α} (h : listOf check v = .accepted as) :
    ∀ a ∈ as, ∃ w, check w = .accepted a := by
  unfold listOf at h
  split at h
  · intro a ha
    obtain ⟨w, -, hw⟩ := of_itemsFrom h a ha
    exact ⟨w, hw⟩
  · exact absurd h reject_ne_accepted

theorem of_filledText {v : Value} {s : String} (h : filledText v = .accepted s) : s ≠ "" := by
  unfold filledText at h
  split at h
  · split at h
    · exact absurd h reject_ne_accepted
    · cases h
      assumption
  · exact absurd h reject_ne_accepted

/-- A text that has to be filled and there is filled. -/
theorem of_required_filledText {s : String} (h : required ms name filledText = .accepted s) :
    s ≠ "" := by
  obtain ⟨v, hv⟩ := of_required h
  exact of_filledText hv

end Schema

open Checked

/-! ## Conditions -/

namespace Condition

theorem wellFormed_withOperand {space : Space} {path : Option String} {operator : Operator}
    {operand : Value} {c : Condition}
    (h : withOperand space path operator operand = .accepted c) : c.wellFormed = true := by
  unfold withOperand at h
  split at h
  · exact absurd h reject_ne_accepted
  · rename_i hoperand
    cases h
    rw [wellFormed, Bool.eq_false_iff.2 hoperand]
    rfl

theorem wellFormed_checkField {space : Space} {ms : Members} {c : Condition}
    (h : checkField space ms = .accepted c) : c.wellFormed = true := by
  obtain ⟨⟨path, operator, operand, _⟩, -, h⟩ := andThen_eq_accepted.1 h
  exact wellFormed_withOperand h

theorem wellFormed_checkExpression {ms : Members} {c : Condition}
    (h : checkExpression ms = .accepted c) : c.wellFormed = true := by
  obtain ⟨⟨_, text⟩, hboth, rfl⟩ := map_eq_accepted.1 h
  exact decide_eq_true (of_required_filledText (both_eq_accepted.1 hboth).2)

theorem wellFormed_checkVariant? {tag : String} {variant : Members → Checked Condition}
    (h : checkVariant? tag = some variant) {ms : Members} {c : Condition}
    (hc : variant ms = .accepted c) : c.wellFormed = true := by
  unfold checkVariant? at h
  split at h
  · cases h
    exact wellFormed_checkExpression hc
  · obtain ⟨space, -, rfl⟩ := Option.map_eq_some_iff.1 h
    exact wellFormed_checkField hc

/-- **An accepted condition is well formed.** -/
theorem wellFormed_of_check [Interpreter] {v : Value} {c : Condition} (h : check v = .accepted c) :
    c.wellFormed = true := by
  unfold check at h
  split at h
  · split at h
    · exact absurd h reject_ne_accepted
    · dsimp only at h
      split at h
      · split at h
        · exact wellFormed_checkVariant? ‹_› (within_eq_accepted.1 h)
        · exact absurd h reject_ne_accepted
      · exact absurd h reject_ne_accepted
  · exact absurd h reject_ne_accepted

end Condition

/-! ## Rules -/

theorem Transform.expression_ne_of_check {v : Value} {t : Transform}
    (h : Transform.check v = .accepted t) : t.expression ≠ "" := by
  obtain ⟨ms, -, h⟩ := of_record h
  obtain ⟨g, expression, hg, hexpression, rfl⟩ := seq_eq_accepted.1 h
  obtain ⟨enabled, -, rfl⟩ := functor_map_eq_accepted.1 hg
  exact of_required_filledText hexpression

/-- **An accepted rule is well formed.** -/
theorem Rule.wellFormed_of_check [Interpreter] {v : Value} {r : Rule}
    (h : Rule.check v = .accepted r) :
    r.wellFormed = true := by
  obtain ⟨ms, -, h⟩ := of_record h
  -- the fields from the last to the first
  obtain ⟨_, destination, h₇, hdestination, rfl⟩ := seq_eq_accepted.1 h
  obtain ⟨_, transform, h₆, htransform, rfl⟩ := seq_eq_accepted.1 h₇
  obtain ⟨_, combination, h₅, -, rfl⟩ := seq_eq_accepted.1 h₆
  obtain ⟨_, conditions, h₄, hconditions, rfl⟩ := seq_eq_accepted.1 h₅
  obtain ⟨_, priority, h₃, -, rfl⟩ := seq_eq_accepted.1 h₄
  obtain ⟨_, enabled, h₂, -, rfl⟩ := seq_eq_accepted.1 h₃
  obtain ⟨_, description, h₁, -, rfl⟩ := seq_eq_accepted.1 h₂
  obtain ⟨name, hname, rfl⟩ := functor_map_eq_accepted.1 h₁
  have hconditions' : ∀ c ∈ conditions, c.wellFormed = true := by
    rcases of_optional hconditions with rfl | ⟨w, hw⟩
    · simp
    · intro c hc
      obtain ⟨u, hu⟩ := of_listOf hw c hc
      exact Condition.wellFormed_of_check hu
  have htransform' : ∀ t, transform = some t → t.expression ≠ "" := by
    rintro t rfl
    rcases of_optional htransform with h | ⟨w, hw⟩
    · cases h
    · rcases of_nullable hw with h | ⟨u, hu, hcheck⟩
      · cases h
      · cases hu
        exact Transform.expression_ne_of_check hcheck
  simp only [Rule.wellFormed, Bool.and_eq_true, decide_eq_true_eq, List.all_eq_true,
    Option.all_eq_true]
  exact ⟨⟨⟨of_required_filledText hname, of_required_filledText hdestination⟩, hconditions'⟩,
    htransform'⟩

/-! ## Rule sets -/

theorem RuleSet.of_uniquelyNamed {rules rules' : List Rule}
    (h : uniquelyNamed rules = .accepted rules') : rules = rules' := by
  unfold uniquelyNamed at h
  split at h
  · exact absurd h reject_ne_accepted
  · cases h
    rfl

theorem RuleSet.wellFormed_of_checkMembers [Interpreter] {ms : Members} {set : RuleSet}
    (h : checkMembers ms = .accepted set) : ∀ r ∈ set.rules, r.wellFormed = true := by
  obtain ⟨_, rules, hversion, hrules, rfl⟩ := seq_eq_accepted.1 h
  obtain ⟨version, -, rfl⟩ := functor_map_eq_accepted.1 hversion
  rcases of_optional hrules with rfl | ⟨v, hv⟩
  · simp
  · obtain ⟨rules', hlist, hunique⟩ := andThen_eq_accepted.1 hv
    obtain rfl := of_uniquelyNamed hunique
    intro r hr
    obtain ⟨w, hw⟩ := of_listOf hlist r hr
    exact Rule.wellFormed_of_check hw

/-- **The rules of an accepted rule set are well formed.** -/
theorem RuleSet.wellFormed_of_ofValue [Interpreter] {v : Value} {set : RuleSet}
    (h : ofValue v = .ok set) : ∀ r ∈ set.rules, r.wellFormed = true := by
  unfold ofValue at h
  split at h
  · cases h
  · split at h
    · cases h
      exact wellFormed_of_checkMembers ‹_›
    · cases h

end MessageRouting
