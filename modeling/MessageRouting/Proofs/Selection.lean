import MessageRouting.Proofs.Run

/-!
# The selected rule

A run reports the best rule that applies to the message: no other enabled rule whose conditions hold
has a higher priority, or the same priority and an earlier position in the list
(`run_reports_selected`). If the evaluator changes on the way, conditions hold or not at their turn,
which comes after the conditions of the enabled rules that precede theirs; if it does not, the turn
makes no difference (`applies_constant`).
-/

namespace MessageRouting

open Expression Routing

/-- A candidate is examined at its turn. -/
theorem after_preceding (evs : Course) {rules : List Rule}
    {before after : List (Rule × Nat)} {r : Rule} {i : Nat}
    (h : ranked rules = before ++ (r, i) :: after) :
    (candidates rules)[before.length]? = some r ∧
      evs.after (conditionCount (preceding rules r i)) = atCandidate evs rules before.length := by
  have hcandidates : candidates rules = before.map (·.1) ++ r :: after.map (·.1) := by
    rw [← map_fst_ranked, h, List.map_append, List.map_cons]
  have hlength : before.length = (before.map (·.1)).length := (List.length_map _).symm
  have hcount : conditionCount (before.map (·.1)) = conditionCount (preceding rules r i) :=
    ((perm_of_ranked h).flatMap_right _).length_eq
  rw [atCandidate, hcandidates, hlength, List.take_left, hcount]
  exact ⟨by simp, rfl⟩

/-! ## The rule that ought to be selected -/

variable [Interpreter]

/-- A message meets a condition. -/
def Condition.Met (ev : Evaluator) (m : Message) (c : Condition) : Prop :=
  (c.evaluate ev m).finding.matched = true

namespace Rule

/-- The conditions of a rule, evaluated in turn, hold: there are none, all are met, or one is met
and one is enough. -/
def Holds (evs : Course) (m : Message) (r : Rule) : Prop :=
  r.conditions = [] ∨ match r.combination with
    | .all => ∀ (i : Nat) (c : Condition), r.conditions[i]? = some c → c.Met (evs i) m
    | .any => ∃ (i : Nat) (c : Condition), r.conditions[i]? = some c ∧ c.Met (evs i) m

/-- A rule at a position takes part, and its conditions hold at their turn. -/
def Applies (evs : Course) (m : Message) (rules : List Rule) (i : Nat) (r : Rule) : Prop :=
  rules[i]? = some r ∧ r.enabled = true ∧
    r.Holds (evs.after (conditionCount (preceding rules r i))) m

/-- With an evaluator that stays as it is, conditions are met by themselves. -/
theorem holds_constant {ev : Evaluator} {m : Message} {r : Rule} :
    r.Holds (.constant ev) m ↔ r.conditions = [] ∨ match r.combination with
      | .all => ∀ c ∈ r.conditions, c.Met ev m
      | .any => ∃ c ∈ r.conditions, c.Met ev m := by
  unfold Holds
  cases r.combination with
  | all =>
    refine or_congr_right ⟨fun h c hc => ?_, fun h i c hc => h c (List.mem_of_getElem? hc)⟩
    obtain ⟨i, hi⟩ := List.getElem?_of_mem hc
    exact h i c hi
  | any =>
    refine or_congr_right ⟨?_, ?_⟩
    · rintro ⟨i, c, hc, hm⟩
      exact ⟨c, List.mem_of_getElem? hc, hm⟩
    · rintro ⟨c, hc, hm⟩
      obtain ⟨i, hi⟩ := List.getElem?_of_mem hc
      exact ⟨i, c, hi, hm⟩

/-- With an evaluator that stays as it is, a rule applies whatever its turn is. -/
theorem applies_constant {ev : Evaluator} {m : Message} {rules : List Rule} {i : Nat} {r : Rule} :
    r.Applies (.constant ev) m rules i ↔ rules[i]? = some r ∧ r.enabled = true ∧
      (r.conditions = [] ∨ match r.combination with
        | .all => ∀ c ∈ r.conditions, c.Met ev m
        | .any => ∃ c ∈ r.conditions, c.Met ev m) :=
  and_congr_right fun _ => and_congr_right fun _ => holds_constant

end Rule

/-- The rule at a position is the best one that applies to a message. -/
structure Selected (evs : Course) (m : Message) (rules : List Rule) (i : Nat) (r : Rule) :
    Prop where
  /-- It applies. -/
  applies : r.Applies evs m rules i
  /-- None that applies goes before it. -/
  best : ∀ (j : Nat) (s : Rule), s.Applies evs m rules j → ¬ Precedes s j r i

variable {evs : Course} {m : Message} {rules : List Rule}

/-- At most one position is selected. -/
theorem Selected.unique {i j : Nat} {r s : Rule} (hr : Selected evs m rules i r)
    (hs : Selected evs m rules j s) : i = j ∧ r = s := by
  have h₁ := hr.best j s hs.applies
  have h₂ := hs.best i r hr.applies
  simp only [Precedes, not_or, not_and] at h₁ h₂
  obtain rfl : i = j := by omega
  have h := hr.applies.1.symm.trans hs.applies.1
  exact ⟨rfl, Option.some.inj h⟩

/-! ## The rule that is found -/

/-- An examination matches exactly if the conditions of the rule hold. -/
theorem matched_examine_iff {r : Rule} : (examine evs m r).matched = true ↔ r.Holds evs m := by
  have hmem : ∀ b, b ∈ (findings evs m r.conditions).map (·.matched) ↔
      ∃ (i : Nat) (c : Condition), r.conditions[i]? = some c ∧
        (c.evaluate (evs i) m).finding.matched = b := fun b => by
    simp only [List.mem_iff_getElem?, List.getElem?_map, getElem?_findings, Option.map_map,
      Option.map_eq_some_iff, Function.comp_apply]
  have hnil : (findings evs m r.conditions).map (·.matched) = [] ↔ r.conditions = [] := by
    rw [List.map_eq_nil_iff, findings, List.mapIdx_eq_nil_iff]
  rw [matched_examine, holds_iff, hnil, Rule.Holds]
  cases r.combination with
  | all =>
    refine or_congr_right ⟨fun h i c hc => h _ ((hmem _).2 ⟨i, c, hc, rfl⟩), fun h b hb => ?_⟩
    obtain ⟨i, c, hc, rfl⟩ := (hmem b).1 hb
    exact h i c hc
  | any =>
    refine or_congr_right ⟨?_, ?_⟩
    · rintro ⟨b, hb, rfl⟩
      exact (hmem true).1 hb
    · rintro ⟨i, c, hc, hm⟩
      exact ⟨true, (hmem true).2 ⟨i, c, hc, hm⟩, rfl⟩

/-- A rule applies exactly if it matches when it is examined as a candidate. -/
theorem applies_iff_matched {before after : List (Rule × Nat)} {r : Rule} {i : Nat}
    (h : ranked rules = before ++ (r, i) :: after) :
    r.Applies evs m rules i ↔
      (examine (atCandidate evs rules before.length) m r).matched = true := by
  have hmem : rules[i]? = some r ∧ r.enabled = true :=
    mem_ranked.1 (h ▸ List.mem_append_right _ List.mem_cons_self)
  rw [matched_examine_iff, ← (after_preceding evs h).2, Rule.Applies]
  exact ⟨fun ha => ha.2.2, fun hholds => ⟨hmem.1, hmem.2, hholds⟩⟩

/-- A rule that is found is the selected one. -/
theorem selected_of_found {r : Rule} (h : found evs rules m = some r) :
    ∃ i, Selected evs m rules i r := by
  rcases run_cases evs rules m with ⟨-, hf, -⟩ | ⟨before, s, after, hsplit, -, hf, hall, hm⟩
  · simp [h] at hf
  · obtain rfl : r = s := Option.some.inj (h.symm.trans hf)
    rw [← map_fst_ranked, List.map_eq_append_iff] at hsplit
    obtain ⟨before, rest, hranked, rfl, hrest⟩ := hsplit
    obtain ⟨⟨r, i⟩, after, rfl, rfl, -⟩ := List.map_eq_cons_iff.1 hrest
    rw [List.length_map] at hm
    refine ⟨i, (applies_iff_matched hranked).2 hm, fun j s hs hprecedes => ?_⟩
    have hpair := pairwise_ranked rules
    have hmem := mem_ranked.2 ⟨hs.1, hs.2.1⟩
    rw [hranked, List.pairwise_append, List.pairwise_cons] at hpair
    rw [hranked] at hmem
    rcases List.mem_append.1 hmem with hmem | hmem
    · -- it was examined before, and did not match
      obtain ⟨as, bs, rfl⟩ := List.append_of_mem hmem
      rw [List.append_assoc] at hranked
      have hmatched := (applies_iff_matched hranked).1 hs
      rw [hall as.length s (by simp)] at hmatched
      cases hmatched
    · rcases List.mem_cons.1 hmem with heq | hmem
      · cases heq
        exact Precedes.irrefl _ _ hprecedes
      · exact hprecedes.asymm (hpair.2.1.1 _ hmem)

theorem found_eq_none_iff :
    found evs rules m = none ↔ ∀ i r, ¬ Rule.Applies evs m rules i r := by
  constructor
  · intro hf i r hr
    obtain ⟨before, after, hranked⟩ := List.append_of_mem (mem_ranked.2 ⟨hr.1, hr.2.1⟩)
    have hmatched := (applies_iff_matched hranked).1 hr
    rcases run_cases evs rules m with ⟨-, -, hall⟩ | ⟨_, s, _, -, -, hs, -⟩
    · rw [hall before.length r (after_preceding evs hranked).1] at hmatched
      cases hmatched
    · simp [hf] at hs
  · intro hnone
    refine Option.eq_none_iff_forall_ne_some.2 fun r hr => ?_
    obtain ⟨i, hi⟩ := selected_of_found hr
    exact hnone i r hi.applies

/-- **A run reports the selected rule**, by its name and its destination; it reports no rule exactly
if none applies. -/
theorem run_reports_selected (evs : Course) (rules : List Rule) (m : Message) :
    ((∃ i r, Selected evs m rules i r ∧ (∀ j s, Selected evs m rules j s → j = i ∧ s = r) ∧
        (routeAlong evs rules m).result.ruleName = some r.name ∧
        (routeAlong evs rules m).result.destination = some r.destination) ∨
      ((∀ i r, ¬ Rule.Applies evs m rules i r) ∧
        (routeAlong evs rules m).result.ruleName = none ∧
        (routeAlong evs rules m).result.destination = none)) ∧
    ((routeAlong evs rules m).result.ruleName = none ↔ ∀ i r, ¬ Rule.Applies evs m rules i r) ∧
    ((routeAlong evs rules m).result.destination = none ↔
      ∀ i r, ¬ Rule.Applies evs m rules i r) := by
  simp only [ruleName_routeAlong, destination_routeAlong, Option.map_eq_none_iff,
    found_eq_none_iff, and_true, iff_self]
  rcases hf : found evs rules m with _ | r
  · have hnone := found_eq_none_iff.1 hf
    exact .inr ⟨hnone, hnone, hnone⟩
  · obtain ⟨i, hi⟩ := selected_of_found hf
    exact .inl ⟨i, r, hi, fun j s hs => hs.unique hi, rfl, rfl⟩

end MessageRouting
