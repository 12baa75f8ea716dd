import MessageRouting.Proofs.Candidates

/-!
# The one order of the candidates

Three properties fix the order of the candidates: they are the enabled rules, their priorities never
increase, and rules of one priority stand as they were given (`StablyOrdered`). A rule can be given
several times, so the third property tells its occurrences apart by their positions. No other list
has the three properties, and a list that has been put in order is in order already
(`candidates_canonical`).
-/

namespace MessageRouting

/-- The enabled rules of a list, in descending order of priority and otherwise as they stand in the
list. -/
structure StablyOrdered (rules out : List Rule) : Prop where
  /-- They are the enabled rules, each as often as it was given. -/
  perm : out.Perm (rules.filter (·.enabled))
  /-- Priorities never increase. -/
  descending : out.Pairwise fun r s => s.priority ≤ r.priority
  /-- They come from different positions of the list, and of two with the same priority the first
  one comes from the earlier position. -/
  stable : ∃ occurrences : List (Rule × Nat), occurrences.map (·.1) = out ∧
    occurrences.Perm (rules.zipIdx.filter (·.1.enabled)) ∧
    occurrences.Pairwise fun a b => a.1.priority = b.1.priority → a.2 < b.2

namespace Routing

theorem ranked_perm (rules : List Rule) :
    (ranked rules).Perm (rules.zipIdx.filter (·.1.enabled)) :=
  List.mergeSort_perm _ _

/-- The candidates have the three properties. -/
theorem stablyOrdered_candidates (rules : List Rule) : StablyOrdered rules (candidates rules) where
  perm := candidates_perm rules
  descending := pairwise_candidates rules
  stable := by
    refine ⟨ranked rules, map_fst_ranked rules, ranked_perm rules, ?_⟩
    apply (pairwise_ranked rules).imp
    intro a b hab hpriority
    rcases hab with hlt | ⟨-, hlt⟩
    · omega
    · exact hlt

/-- Occurrences of rules in descending order, those of one priority by their positions, stand as
the candidates do. -/
theorem eq_ranked {rules : List Rule} {occurrences : List (Rule × Nat)}
    (hperm : occurrences.Perm (rules.zipIdx.filter (·.1.enabled)))
    (hdescending : occurrences.Pairwise fun a b => b.1.priority ≤ a.1.priority)
    (hstable : occurrences.Pairwise fun a b => a.1.priority = b.1.priority → a.2 < b.2) :
    occurrences = ranked rules := by
  have hprecedes : occurrences.Pairwise fun a b => Precedes a.1 a.2 b.1 b.2 := by
    apply (hdescending.and hstable).imp
    intro a b ⟨hle, hlt⟩
    rcases Int.lt_or_eq_of_le hle with h | h
    · exact .inl h
    · exact .inr ⟨h.symm, hlt h.symm⟩
  apply (hperm.trans (ranked_perm rules).symm).eq_of_pairwise _ hprecedes (pairwise_ranked rules)
  intro a b _ _ hab hba
  exact absurd hba hab.asymm

/-- Nothing else has the three properties. -/
theorem eq_candidates_of_stablyOrdered {rules out : List Rule} (h : StablyOrdered rules out) :
    out = candidates rules := by
  obtain ⟨occurrences, rfl, hperm, hstable⟩ := h.stable
  have hdescending : occurrences.Pairwise fun a b => b.1.priority ≤ a.1.priority :=
    List.pairwise_map.1 h.descending
  rw [eq_ranked hperm hdescending hstable, map_fst_ranked]

/-- Enabled rules in descending order are in order as they are. -/
theorem stablyOrdered_self {rules : List Rule} (henabled : ∀ r ∈ rules, r.enabled = true)
    (hdescending : rules.Pairwise fun r s => s.priority ≤ r.priority) :
    StablyOrdered rules rules where
  perm := by rw [List.filter_eq_self.2 henabled]
  descending := hdescending
  stable := by
    have hall : rules.zipIdx.filter (·.1.enabled) = rules.zipIdx := by
      apply List.filter_eq_self.2
      intro a ha
      exact henabled a.1 (List.fst_mem_of_mem_zipIdx ha)
    refine ⟨rules.zipIdx, List.zipIdx_map_fst 0 rules, by rw [hall], ?_⟩
    apply (pairwise_snd_zipIdx rules 0).imp
    intro a b hlt _
    exact hlt

theorem candidates_candidates (rules : List Rule) :
    candidates (candidates rules) = candidates rules := by
  have henabled : ∀ r ∈ candidates rules, r.enabled = true := fun r hr => (mem_candidates.1 hr).2
  exact (eq_candidates_of_stablyOrdered
    (stablyOrdered_self henabled (pairwise_candidates rules))).symm

/-- **The order of the candidates is the one stable order**: they are the enabled rules in
descending order of priority, those of one priority as they were given, no other list is, and
putting them in order once more changes nothing. -/
theorem candidates_canonical (rules : List Rule) :
    (∀ out, StablyOrdered rules out ↔ out = candidates rules) ∧
      candidates (candidates rules) = candidates rules := by
  refine ⟨fun out => ⟨eq_candidates_of_stablyOrdered, ?_⟩, candidates_candidates rules⟩
  rintro rfl
  exact stablyOrdered_candidates rules

end Routing

end MessageRouting
