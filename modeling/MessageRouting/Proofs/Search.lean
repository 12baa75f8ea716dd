import MessageRouting.Proofs.Candidates

/-!
# The search for a rule

A search examines rules in turn and stops at the first one whose conditions hold. `search_cases`
says what it leaves behind: the examinations of a first part of the list (`examinations`), of which
all but the last found no match, and the rule of the last one if that matched.
-/

namespace MessageRouting.Routing

open Expression

/-! ## Courses, counts and combinations -/

theorem after_zero (evs : Course) : evs.after 0 = evs := by
  funext n
  simp only [Course.after, Nat.zero_add]

theorem after_after (evs : Course) (a b : Nat) : (evs.after a).after b = evs.after (a + b) := by
  funext n
  simp only [Course.after, Nat.add_assoc]

theorem conditionCount_nil : conditionCount [] = 0 := rfl

theorem conditionCount_cons (r : Rule) (rs : List Rule) :
    conditionCount (r :: rs) = r.conditions.length + conditionCount rs := by
  simp only [conditionCount, List.flatMap_cons, List.length_append]

theorem map_mapIdx {α β γ : Type} (f : Nat → α → β) (g : β → γ) (l : List α) :
    (l.mapIdx f).map g = l.mapIdx fun i a => g (f i a) := by
  refine List.ext_getElem? fun i => ?_
  simp only [List.getElem?_map, List.getElem?_mapIdx, Option.map_map]
  rfl

/-- Results hold together if there are none, if all do, or if one does and one is enough. -/
theorem holds_iff {c : Combination} {bs : List Bool} :
    c.holds bs = true ↔
      bs = [] ∨ match c with
        | .all => ∀ b ∈ bs, b = true
        | .any => ∃ b ∈ bs, b = true := by
  cases c <;> simp [Combination.holds]

/-! ## One rule -/

variable [Interpreter]

/-- The findings of conditions that are evaluated in turn. -/
def findings (evs : Course) (m : Message) (cs : List Condition) : List Finding :=
  cs.mapIdx fun i c => (c.evaluate (evs i) m).finding

theorem getElem?_findings (evs : Course) (m : Message) (cs : List Condition) (i : Nat) :
    (findings evs m cs)[i]? = cs[i]?.map fun c => (c.evaluate (evs i) m).finding := by
  rw [findings, List.getElem?_mapIdx]

theorem findings_append (evs : Course) (m : Message) (cs ds : List Condition) :
    findings evs m (cs ++ ds) = findings evs m cs ++ findings (evs.after cs.length) m ds := by
  simp only [findings, List.mapIdx_append, Course.after, Nat.add_comm]

/-- Whether the conditions of a rule hold is the combination of their findings. -/
theorem matched_examine (evs : Course) (m : Message) (r : Rule) :
    (examine evs m r).matched =
      r.combination.holds ((findings evs m r.conditions).map (·.matched)) := by
  simp only [examine, findings, map_mapIdx]

theorem issues_examine (evs : Course) (m : Message) (r : Rule) :
    (examine evs m r).issues = (findings evs m r.conditions).filterMap (·.issue) := by
  have h : findings evs m r.conditions =
      (r.conditions.mapIdx fun i c => (c, c.evaluate (evs i) m)).map (·.2.finding) := by
    rw [map_mapIdx, findings]
  rw [h, List.filterMap_map]
  rfl

theorem getElem?_entries_examine (evs : Course) (m : Message) (r : Rule) (i : Nat) :
    (examine evs m r).entries[i]? =
      r.conditions[i]?.map fun c => entry i c (c.evaluate (evs i) m).finding := by
  simp only [examine, List.mapIdx_mapIdx, List.getElem?_mapIdx]
  rfl

theorem length_entries_examine (evs : Course) (m : Message) (r : Rule) :
    (examine evs m r).entries.length = r.conditions.length := by
  simp only [examine, List.mapIdx_mapIdx, List.length_mapIdx]

/-! ## Rules in turn -/

/-- The examinations of rules, one after the other. -/
def examinations (evs : Course) (m : Message) : List Rule → List (Rule × Examination)
  | [] => []
  | r :: rs => (r, examine evs m r) :: examinations (evs.after r.conditions.length) m rs

theorem map_fst_examinations (evs : Course) (m : Message) (rs : List Rule) :
    (examinations evs m rs).map (·.1) = rs := by
  induction rs generalizing evs with
  | nil => rfl
  | cons r rs ih => rw [examinations, List.map_cons, ih]

theorem getElem?_examinations (evs : Course) (m : Message) (rs : List Rule) (i : Nat) :
    (examinations evs m rs)[i]? =
      rs[i]?.map fun r => (r, examine (evs.after (conditionCount (rs.take i))) m r) := by
  induction rs generalizing evs i with
  | nil => rfl
  | cons r rs ih =>
    cases i with
    | zero =>
      simp only [examinations, List.getElem?_cons_zero, Option.map_some]
      rw [List.take_zero, conditionCount_nil, after_zero]
    | succ i =>
      simp only [examinations, List.getElem?_cons_succ, ih, List.take_succ_cons,
        conditionCount_cons, after_after]

/-- The warnings of examinations are those of the conditions, evaluated in turn. -/
theorem flatMap_issues_examinations (evs : Course) (m : Message) (rs : List Rule) :
    (examinations evs m rs).flatMap (·.2.issues) =
      (findings evs m (rs.flatMap (·.conditions))).filterMap (·.issue) := by
  induction rs generalizing evs with
  | nil => rfl
  | cons r rs ih =>
    rw [examinations, List.flatMap_cons, ih, issues_examine, List.flatMap_cons, findings_append,
      List.filterMap_append]

/-! ## The search -/

/-- **What a search leaves behind**: the examinations of all rules if none matched, and otherwise
those of the rules up to the first that did. -/
theorem search_cases (evs : Course) (m : Message) (rs : List Rule) :
    (search evs m rs = (examinations evs m rs, none) ∧
      ∀ x ∈ examinations evs m rs, x.2.matched = false) ∨
    ∃ before r after, rs = before ++ r :: after ∧
      search evs m rs = (examinations evs m (before ++ [r]), some r) ∧
      (∀ x ∈ examinations evs m before, x.2.matched = false) ∧
      (examine (evs.after (conditionCount before)) m r).matched = true := by
  induction rs generalizing evs with
  | nil => exact .inl ⟨rfl, by simp [examinations]⟩
  | cons r rs ih =>
    rw [search]
    by_cases hr : (examine evs m r).matched = true
    · refine .inr ⟨[], r, rs, rfl, by simp [hr, examinations], by simp [examinations], ?_⟩
      rwa [conditionCount_nil, after_zero]
    · rcases ih (evs.after r.conditions.length) with
        ⟨hs, hall⟩ | ⟨before, s, after, rfl, hs, hall, hm⟩
      · refine .inl ⟨by simp [hr, hs, examinations], fun x hx => ?_⟩
        rcases List.mem_cons.1 hx with rfl | hx
        · simpa using hr
        · exact hall x hx
      · refine .inr ⟨r :: before, s, after, rfl, by simp [hr, hs, examinations], fun x hx => ?_, ?_⟩
        · rcases List.mem_cons.1 hx with rfl | hx
          · simpa using hr
          · exact hall x hx
        · rwa [conditionCount_cons, ← after_after]

end MessageRouting.Routing
