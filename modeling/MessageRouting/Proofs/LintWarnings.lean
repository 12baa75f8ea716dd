import MessageRouting.Lint
import MessageRouting.Proofs.Findings

/-!
# What the warnings of a check are about

A warning is known by its place: those of conditions, of rules and of unreachable rules have places
of different forms, and the place of a condition determines the positions of the rule and of the
condition (`conditionPlace_inj`). So a report can be read backwards: `warning_of_mem_report` says
what each warning in it is about.
-/

namespace MessageRouting.Lint

open Expression

/-! ## Places -/

theorem toList_toString_inj {m n : Nat} (h : (toString m).toList = (toString n).toList) :
    m = n := by
  simp only [Nat.toString_eq_repr, Nat.toList_repr] at h
  simpa using congrArg (fun ds => Nat.ofDigitChars 10 ds 0) h

theorem not_mem_toString {n : Nat} {c : Char} (hc : c.isDigit = false) :
    c ∉ (toString n).toList := by
  intro h
  rw [Nat.toString_eq_repr, Nat.toList_repr] at h
  exact absurd (Nat.isDigit_of_mem_toDigits (by omega) (by omega) h) (by simp [hc])

/-- Two lists with the same first occurrence of a mark agree before it and after it. -/
theorem append_mark_inj {α : Type} {x : α} {as bs us vs : List α} (ha : x ∉ as) (hb : x ∉ bs)
    (h : as ++ x :: us = bs ++ x :: vs) : as = bs ∧ us = vs := by
  induction as generalizing bs with
  | nil =>
    cases bs with
    | nil => exact ⟨rfl, (List.cons.inj h).2⟩
    | cons b bs => exact absurd (List.cons.inj h).1 (List.ne_of_not_mem_cons hb)
  | cons a as ih =>
    cases bs with
    | nil => exact absurd (List.cons.inj h).1.symm (List.ne_of_not_mem_cons ha)
    | cons b bs =>
      obtain ⟨rfl, htail⟩ := List.cons.inj h
      obtain ⟨rfl, hrest⟩ := ih (List.not_mem_of_not_mem_cons ha)
        (List.not_mem_of_not_mem_cons hb) htail
      exact ⟨rfl, hrest⟩

/-- Two lists with the same last occurrence of a mark agree before it and after it. -/
theorem append_last_mark_inj {α : Type} {x : α} {as bs us vs : List α} (hu : x ∉ us) (hv : x ∉ vs)
    (h : as ++ x :: us = bs ++ x :: vs) : as = bs ∧ us = vs := by
  have hreverse := congrArg List.reverse h
  simp only [List.reverse_append, List.reverse_cons, List.append_assoc, List.singleton_append]
    at hreverse
  obtain ⟨hus, has⟩ := append_mark_inj (mt List.mem_reverse.1 hu) (mt List.mem_reverse.1 hv)
    hreverse
  exact ⟨List.reverse_inj.1 has, List.reverse_inj.1 hus⟩

/-- The position of a rule stands in its place, up to the first bracket that closes. -/
theorem toList_rulePlace (i : Nat) (name : String) :
    (rulePlace i name).toList =
      "rules[".toList ++ ((toString i).toList ++ ']' :: ' ' :: (quoted name).toList) := by
  simp [rulePlace]

/-- The position of a condition stands at the end of its place, from the last bracket that opens
on. -/
theorem toList_conditionPlace (place : String) (j : Nat) :
    (conditionPlace place j).toList =
      (place.toList ++ " conditions".toList) ++ '[' :: ((toString j).toList ++ [']']) := by
  simp [conditionPlace]

/-- **The place of a condition determines the positions** of its rule and of the condition. -/
theorem conditionPlace_inj {i i' j j' : Nat} {n n' : String}
    (h : conditionPlace (rulePlace i n) j = conditionPlace (rulePlace i' n') j') :
    i = i' ∧ j = j' := by
  have hlist := congrArg String.toList h
  simp only [toList_conditionPlace] at hlist
  have hmark : ∀ k : Nat, '[' ∉ (toString k).toList ++ [']'] := fun k hk => by
    rcases List.mem_append.1 hk with hk | hk
    · exact not_mem_toString (by decide) hk
    · exact absurd hk (by decide)
  obtain ⟨hplace, hcondition⟩ := append_last_mark_inj (hmark j) (hmark j') hlist
  have hrule := List.append_cancel_right hplace
  simp only [toList_rulePlace] at hrule
  obtain ⟨hindex, -⟩ := append_mark_inj (not_mem_toString (by decide))
    (not_mem_toString (by decide)) (List.append_cancel_left hrule)
  exact ⟨toList_toString_inj hindex, toList_toString_inj (List.append_cancel_right hcondition)⟩

/-! ## Places of different forms -/

theorem getLast?_toList_append {s t : String} {c : Char} (h : t.toList.getLast? = some c) :
    (s ++ t).toList.getLast? = some c := by
  rw [String.toList_append, List.getLast?_append, h]
  rfl

theorem head?_quoted (name : String) : (quoted name).toList.head? = some '\'' := by
  simp [quoted]

theorem getLast?_quoted (name : String) : (quoted name).toList.getLast? = some '\'' :=
  getLast?_toList_append rfl

theorem quoted_inj {n n' : String} (h : quoted n = quoted n') : n = n' := by
  simpa [quoted, String.toList_inj] using congrArg String.toList h

theorem head?_rulePlace (i : Nat) (name : String) : (rulePlace i name).toList.head? = some 'r' := by
  simp [rulePlace]

theorem getLast?_rulePlace (i : Nat) (name : String) :
    (rulePlace i name).toList.getLast? = some '\'' :=
  getLast?_toList_append (getLast?_quoted name)

theorem getLast?_conditionPlace (place : String) (j : Nat) :
    (conditionPlace place j).toList.getLast? = some ']' :=
  getLast?_toList_append rfl

theorem getLast?_transformPlace (place : String) :
    (transformPlace place).toList.getLast? = some 'm' :=
  getLast?_toList_append rfl

/-- Places with different ends differ. -/
theorem place_ne {p q : String} {c d : Char} (hp : p.toList.getLast? = some c)
    (hq : q.toList.getLast? = some d) (hne : c ≠ d) : p ≠ q := by
  rintro rfl
  exact hne (Option.some.inj (hp.symm.trans hq))

theorem conditionPlace_ne_rulePlace {place : String} {i j : Nat} {n : String} :
    conditionPlace place j ≠ rulePlace i n :=
  place_ne (getLast?_conditionPlace place j) (getLast?_rulePlace i n) (by decide)

theorem conditionPlace_ne_quoted {place : String} {j : Nat} {n : String} :
    conditionPlace place j ≠ quoted n :=
  place_ne (getLast?_conditionPlace place j) (getLast?_quoted n) (by decide)

theorem rulePlace_ne_quoted {i : Nat} {n n' : String} : rulePlace i n ≠ quoted n' := by
  intro h
  have hhead := head?_rulePlace i n
  rw [h, head?_quoted] at hhead
  exact absurd hhead (by decide)

/-! ## Single warnings -/

/-- The results of steps that all succeed are those of the elements. -/
theorem exists_of_mem_mapM {ε α β : Type} {f : α → Except ε β} {xs : List α} {ys : List β}
    (h : xs.mapM f = .ok ys) : ∀ y ∈ ys, ∃ x ∈ xs, f x = .ok y := by
  induction xs generalizing ys with
  | nil =>
    obtain rfl := pure_eq_ok.1 h
    simp
  | cons x xs ih =>
    simp only [List.mapM_cons, bind_eq_ok, pure_eq_ok] at h
    obtain ⟨y, hy, rest, hrest, rfl⟩ := h
    intro z hz
    rcases List.mem_cons.1 hz with rfl | hz
    · exact ⟨x, List.mem_cons_self, hy⟩
    · obtain ⟨w, hw, hz⟩ := ih hrest z hz
      exact ⟨w, List.mem_cons_of_mem _ hw, hz⟩

/-- What a warning in a report is about. -/
inductive Warning (l : Limits) (rules : List Rule) : Issue → Prop
  /-- The priority of a rule is not recommended. -/
  | priority {i : Nat} {r : Rule} {priority : String} {issue : Issue} (rule : rules[i]? = some r)
    (outside : outsideIssue l (rulePlace i r.name) priority = .ok issue) : Warning l rules issue
  /-- A condition has no field. -/
  | field {i j : Nat} {r : Rule} {space : Space} {path : Option String} {operator : Operator}
    {operand : Value} (rule : rules[i]? = some r)
    (condition : r.conditions[j]? = some (.field space path operator operand))
    (empty : path = none ∨ path = some "") :
    Warning l rules (fieldIssue (conditionPlace (rulePlace i r.name) j) space.name)
  /-- A rule ties with an earlier one. -/
  | tie {i : Nat} {r : Rule} (priority name : String) (rule : rules[i]? = some r) :
    Warning l rules (tieIssue (rulePlace i r.name) priority name)
  /-- A rule is unreachable. -/
  | shadow {r blocker : Rule} {rest : List Rule} (shadowed : shadowed rules = some (blocker, rest))
    (mem : r ∈ rest) : Warning l rules (shadowIssue blocker.name r.name)

variable {l : Limits} {ev : Option Evaluator} {rules : List Rule} {place : String} {i : Issue}

/-- Issues about expressions are errors. -/
theorem error_of_expressionIssues {expression : Value} {issues : List Issue}
    (h : expressionIssues ev place expression = .ok issues) (hi : i ∈ issues) :
    i.severity = .error := by
  unfold expressionIssues at h
  split at h
  · cases h
    cases hi
  · split at h
    · cases h
    · cases h
      split at hi
      · cases hi
      · rw [List.mem_singleton.1 hi]
        rfl

theorem error_of_transformIssues {r : Rule} {issues : List Issue}
    (h : transformIssues ev place r = .ok issues) (hi : i ∈ issues) : i.severity = .error := by
  unfold transformIssues at h
  split at h
  · split at h
    · exact error_of_expressionIssues h hi
    · cases h
      cases hi
  · cases h
    cases hi

theorem error_of_nameIssues {name : String} (hi : i ∈ nameIssues l place name) :
    i.severity = .error := by
  unfold nameIssues at hi
  split at hi
  · rw [List.mem_singleton.1 hi]
    rfl
  · cases hi

theorem error_of_countIssues {count : Nat} (hi : i ∈ countIssues l place count) :
    i.severity = .error := by
  unfold countIssues at hi
  split at hi
  · rw [List.mem_singleton.1 hi]
    rfl
  · cases hi

theorem mem_priorityIssues {r : Rule} {issues : List Issue}
    (h : priorityIssues l place r = .ok issues) (hi : i ∈ issues) :
    ∃ priority, outsideIssue l place priority = .ok i := by
  unfold priorityIssues at h
  split at h
  · cases h
    cases hi
  · simp only [bind_eq_ok, pure_eq_ok] at h
    obtain ⟨priority, -, issue, hissue, rfl⟩ := h
    rw [List.mem_singleton.1 hi]
    exact ⟨priority, hissue⟩

theorem mem_issues_ofIssues {issues : List Issue} :
    i ∈ (Report.ofIssues issues).issues ↔ i ∈ issues := by
  cases h : i.severity <;> simp [Report.ofIssues, Report.issues, h]

theorem context_outsideIssue {priority : String} (h : outsideIssue l place priority = .ok i) :
    i.context = some place := by
  simp only [outsideIssue, bind_eq_ok, pure_eq_ok] at h
  obtain ⟨low, -, high, -, rfl⟩ := h
  rfl

/-! ### Conditions -/

variable [Interpreter]

/-- Issues about patterns are errors. -/
theorem error_of_patternIssues {operand : Value} {issues : List Issue}
    (h : patternIssues place operand = .ok issues) (hi : i ∈ issues) : i.severity = .error := by
  simp only [patternIssues, bind_eq_ok] at h
  obtain ⟨pattern, -, h⟩ := h
  split at h
  · exact absurd h throw_ne_ok
  · exact absurd h throw_ne_ok
  · exact absurd h throw_ne_ok
  · obtain rfl := pure_eq_ok.1 h
    rw [List.mem_singleton.1 hi]
    rfl
  · obtain rfl := pure_eq_ok.1 h
    cases hi

/-- Issues about operands are errors. -/
theorem error_of_operandIssues {operator : Operator} {operand : Value} {issues : List Issue}
    (h : operandIssues place operator operand = .ok issues) (hi : i ∈ issues) :
    i.severity = .error := by
  unfold operandIssues at h
  split at h
  · cases h
    rw [List.mem_singleton.1 hi]
    rfl
  · split at h
    · exact error_of_patternIssues h hi
    · cases h
      cases hi

/-- The warnings of a condition are about its field. -/
theorem mem_conditionIssues {c : Condition} {issues : List Issue}
    (h : conditionIssues ev place c = .ok issues) (hi : i ∈ issues) (hw : i.severity = .warning) :
    ∃ space path operator operand, c = .field space path operator operand ∧
      (path = none ∨ path = some "") ∧ i = fieldIssue place space.name := by
  cases c with
  | expression text =>
    rw [error_of_expressionIssues h hi] at hw
    cases hw
  | field space path operator operand =>
    simp only [conditionIssues, bind_eq_ok, pure_eq_ok] at h
    obtain ⟨found, hfound, rfl⟩ := h
    refine ⟨space, path, operator, operand, rfl, ?_⟩
    rcases List.mem_append.1 hi with hi | hi
    · unfold fieldIssues at hi
      split at hi
      · exact ⟨.inl rfl, List.mem_singleton.1 hi⟩
      · exact ⟨.inr rfl, List.mem_singleton.1 hi⟩
      · cases hi
    · rw [error_of_operandIssues hfound hi] at hw
      cases hw

/-! ## Warnings of a report -/

/-- The warnings that a rule gives by itself. -/
theorem warning_of_ownIssues {n : Nat} {r : Rule} {issues : List Issue} (hr : rules[n]? = some r)
    (h : ownIssues l ev (rulePlace n r.name) r = .ok issues) (hi : i ∈ issues)
    (hw : i.severity = .warning) : Warning l rules i := by
  have hne : i.severity ≠ .error := by simp [hw]
  simp only [ownIssues, bind_eq_ok, pure_eq_ok] at h
  obtain ⟨priority, hpriority, conditions, hconditions, transform, htransform, rfl⟩ := h
  simp only [List.mem_append, or_assoc] at hi
  rcases hi with hi | hi | hi | hi | hi
  · exact absurd (error_of_nameIssues hi) hne
  · exact absurd (error_of_countIssues hi) hne
  · obtain ⟨_, houtside⟩ := mem_priorityIssues hpriority hi
    exact .priority hr houtside
  · obtain ⟨found, hfound, hi⟩ := List.mem_flatten.1 hi
    obtain ⟨⟨c, j⟩, hc, hcondition⟩ := exists_of_mem_mapM hconditions found hfound
    obtain ⟨space, path, operator, operand, rfl, hpath, rfl⟩ :=
      mem_conditionIssues hcondition hi hw
    exact .field hr (List.mem_zipIdx_iff_getElem?.1 hc) hpath
  · exact absurd (error_of_transformIssues htransform hi) hne

theorem warning_of_ruleIssues {before rest : List Rule} {r : Rule} {issues : List Issue}
    (h : ruleIssues l ev before r = .ok issues) (hi : i ∈ issues) (hw : i.severity = .warning) :
    Warning l (before ++ r :: rest) i := by
  have hr : (before ++ r :: rest)[before.length]? = some r := by simp
  simp only [ruleIssues, bind_eq_ok, pure_eq_ok] at h
  obtain ⟨own, hown, ties, hties, rfl⟩ := h
  simp only [List.mem_append, or_assoc] at hi
  rcases hi with hi | hi | hi
  · unfold duplicateIssues at hi
    split at hi
    · rw [List.mem_singleton.1 hi] at hw
      cases hw
    · cases hi
  · exact warning_of_ownIssues hr hown hi hw
  · unfold tieIssues at hties
    split at hties
    · cases hties
      cases hi
    · simp only [bind_eq_ok, pure_eq_ok] at hties
      obtain ⟨priority, -, rfl⟩ := hties
      rw [List.mem_singleton.1 hi]
      exact .tie _ _ hr

/-- The warnings that rules give one after the other. -/
theorem warning_of_eachIssues {before rest : List Rule} {issues : List Issue}
    (h : eachIssues l ev before rest = .ok issues) (hi : i ∈ issues)
    (hw : i.severity = .warning) : Warning l (before ++ rest) i := by
  induction rest generalizing before issues with
  | nil =>
    cases h
    cases hi
  | cons r rest ih =>
    simp only [eachIssues, bind_eq_ok, pure_eq_ok] at h
    obtain ⟨found, hfound, more, hmore, rfl⟩ := h
    rcases List.mem_append.1 hi with hi | hi
    · exact warning_of_ruleIssues hfound hi hw
    · simpa using ih hmore hi

/-- **A warning in a report** is about a priority, a field, a tie or an unreachable rule. -/
theorem warning_of_mem_report {rep : Report} (h : report l ev rules = .ok rep)
    (hi : i ∈ rep.issues) (hw : i.severity = .warning) : Warning l rules i := by
  simp only [report, bind_eq_ok, pure_eq_ok] at h
  obtain ⟨each, heach, rfl⟩ := h
  rw [mem_issues_ofIssues, List.mem_append, List.mem_append, or_assoc] at hi
  rcases hi with hi | hi | hi
  · unfold collectionIssues at hi
    split at hi
    · rw [List.mem_singleton.1 hi] at hw
      cases hw
    · cases hi
  · exact warning_of_eachIssues heach hi hw
  · unfold shadowIssues at hi
    split at hi
    · cases hi
    · obtain ⟨r, hr, rfl⟩ := List.mem_map.1 hi
      exact .shadow ‹_› hr

/-- A report that says of a condition that it has no field is right. -/
theorem field_of_mem_report {rep : Report} {n j : Nat} {name tag : String}
    (h : report l ev rules = .ok rep)
    (hi : fieldIssue (conditionPlace (rulePlace n name) j) tag ∈ rep.issues) :
    ∃ r space path operator operand, rules[n]? = some r ∧
      r.conditions[j]? = some (.field space path operator operand) ∧
      (path = none ∨ path = some "") := by
  generalize hissue : fieldIssue (conditionPlace (rulePlace n name) j) tag = issue at hi
  have hcontext : issue.context = some (conditionPlace (rulePlace n name) j) := hissue ▸ rfl
  have hseverity : issue.severity = .warning := hissue ▸ rfl
  cases warning_of_mem_report h hi hseverity with
  | priority _ outside =>
    rw [context_outsideIssue outside] at hcontext
    exact absurd (Option.some.inj hcontext).symm conditionPlace_ne_rulePlace
  | field rule condition empty =>
    obtain ⟨rfl, rfl⟩ := conditionPlace_inj (Option.some.inj hcontext)
    exact ⟨_, _, _, _, _, rule, condition, empty⟩
  | tie => exact absurd (Option.some.inj hcontext).symm conditionPlace_ne_rulePlace
  | shadow => exact absurd (Option.some.inj hcontext).symm conditionPlace_ne_quoted

/-- A report that calls a rule unreachable means one that is shadowed. -/
theorem shadowed_of_mem_report {rep : Report} {blocker name : String}
    (h : report l ev rules = .ok rep) (hi : shadowIssue blocker name ∈ rep.issues) :
    ∃ b rest, shadowed rules = some (b, rest) ∧ ∃ r ∈ rest, r.name = name := by
  generalize hissue : shadowIssue blocker name = issue at hi
  have hcontext : issue.context = some (quoted name) := hissue ▸ rfl
  have hseverity : issue.severity = .warning := hissue ▸ rfl
  cases warning_of_mem_report h hi hseverity with
  | priority _ outside =>
    rw [context_outsideIssue outside] at hcontext
    exact absurd (Option.some.inj hcontext) rulePlace_ne_quoted
  | field => exact absurd (Option.some.inj hcontext) conditionPlace_ne_quoted
  | tie => exact absurd (Option.some.inj hcontext) rulePlace_ne_quoted
  | shadow shadowed mem => exact ⟨_, _, shadowed, _, mem, quoted_inj (Option.some.inj hcontext)⟩

end MessageRouting.Lint
