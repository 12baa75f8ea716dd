import MessageRouting.Routing

/-!
# The order of the candidates

Candidates stand in descending order of priority, and those of one priority as they were given. With
their positions in the list that was given (`ranked`), each of them precedes all that follow
(`pairwise_ranked`), so the candidates before one are exactly the enabled rules that precede it
(`perm_of_ranked`).
-/

namespace MessageRouting

/-- The rule `s` at position `j` goes before the rule `r` at position `i`. -/
def Precedes (s : Rule) (j : Nat) (r : Rule) (i : Nat) : Prop :=
  r.priority < s.priority ∨ (s.priority = r.priority ∧ j < i)

instance (s : Rule) (j : Nat) (r : Rule) (i : Nat) : Decidable (Precedes s j r i) :=
  inferInstanceAs (Decidable (_ ∨ _))

theorem Precedes.asymm {r s : Rule} {i j : Nat} (h : Precedes s j r i) : ¬ Precedes r i s j := by
  unfold Precedes at *
  omega

theorem Precedes.irrefl (r : Rule) (i : Nat) : ¬ Precedes r i r i := by
  unfold Precedes
  omega

namespace Routing

/-! ## Sorting by a key -/

section Key

variable {α : Type} (key : α → Int)

theorem descending_trans (a b c : α) (hab : decide (key b ≤ key a) = true)
    (hbc : decide (key c ≤ key b) = true) : decide (key c ≤ key a) = true := by
  simp only [decide_eq_true_eq] at hab hbc ⊢
  omega

theorem descending_total (a b : α) :
    (decide (key b ≤ key a) || decide (key a ≤ key b)) = true := by
  simp only [Bool.or_eq_true, decide_eq_true_eq]
  omega

theorem pairwise_mergeSort_key (l : List α) :
    (l.mergeSort fun a b => key b ≤ key a).Pairwise fun a b => key b ≤ key a :=
  (List.pairwise_mergeSort (descending_trans key) (descending_total key) l).imp of_decide_eq_true

/-- Elements with the same key keep their order. -/
theorem filter_mergeSort_key (l : List α) (k : Int) :
    (l.mergeSort fun a b => key b ≤ key a).filter (key · = k) = l.filter (key · = k) := by
  have hsub : (l.filter (key · = k)).Sublist (l.mergeSort fun a b => key b ≤ key a) := by
    refine List.sublist_mergeSort (descending_trans key) (descending_total key)
      (List.pairwise_of_forall_mem_list fun a ha b hb => ?_) List.filter_sublist
    simp only [List.mem_filter, decide_eq_true_eq] at ha hb ⊢
    omega
  have hsub' := hsub.filter (key · = k)
  rw [List.filter_filter, List.filter_congr fun _ _ => Bool.and_self _] at hsub'
  exact (hsub'.eq_of_length ((List.mergeSort_perm l _).filter _).length_eq.symm).symm

end Key

/-! ## Candidates -/

theorem candidates_perm (rules : List Rule) :
    (candidates rules).Perm (rules.filter (·.enabled)) :=
  List.mergeSort_perm _ _

theorem mem_candidates {rules : List Rule} {r : Rule} :
    r ∈ candidates rules ↔ r ∈ rules ∧ r.enabled = true := by
  rw [(candidates_perm rules).mem_iff, List.mem_filter]

theorem pairwise_candidates (rules : List Rule) :
    (candidates rules).Pairwise fun a b => b.priority ≤ a.priority :=
  pairwise_mergeSort_key Rule.priority _

/-- The rules of one priority keep their order. -/
theorem filter_priority_candidates (rules : List Rule) (p : Int) :
    (candidates rules).filter (·.priority = p) =
      (rules.filter (·.enabled)).filter (·.priority = p) :=
  filter_mergeSort_key Rule.priority _ p

/-- There is only one descending order that keeps the rules of each priority as they are. -/
theorem eq_of_descending {l l' : List Rule} (h : l.Pairwise fun a b => b.priority ≤ a.priority)
    (h' : l'.Pairwise fun a b => b.priority ≤ a.priority)
    (hf : ∀ p, l.filter (·.priority = p) = l'.filter (·.priority = p)) : l = l' := by
  have hmem : ∀ r, r ∈ l ↔ r ∈ l' := fun r => by
    have := congrArg (r ∈ ·) (hf r.priority)
    simpa using this
  induction l generalizing l' with
  | nil =>
    cases l' with
    | nil => rfl
    | cons r' l' => exact absurd ((hmem r').2 List.mem_cons_self) List.not_mem_nil
  | cons r l ih =>
    cases l' with
    | nil => exact absurd ((hmem r).1 List.mem_cons_self) List.not_mem_nil
    | cons r' l' =>
      rw [List.pairwise_cons] at h h'
      have hp : r.priority = r'.priority := by
        have hle : r.priority ≤ r'.priority := by
          rcases List.mem_cons.1 ((hmem r).1 List.mem_cons_self) with rfl | hr
          · exact Int.le_refl _
          · exact h'.1 r hr
        have hge : r'.priority ≤ r.priority := by
          rcases List.mem_cons.1 ((hmem r').2 List.mem_cons_self) with rfl | hr
          · exact Int.le_refl _
          · exact h.1 r' hr
        omega
      obtain rfl : r = r' := by
        have hhead := hf r.priority
        rw [List.filter_cons_of_pos (by simp), List.filter_cons_of_pos (by simp [hp])] at hhead
        exact (List.cons.inj hhead).1
      have hrest : ∀ p, l.filter (·.priority = p) = l'.filter (·.priority = p) := fun p => by
        have hall := hf p
        by_cases hrp : r.priority = p
        · rw [List.filter_cons_of_pos (by simpa), List.filter_cons_of_pos (by simpa)] at hall
          exact (List.cons.inj hall).2
        · rwa [List.filter_cons_of_neg (by simpa), List.filter_cons_of_neg (by simpa)] at hall
      rw [ih h.2 h'.2 hrest fun s => ?_]
      have := congrArg (s ∈ ·) (hrest s.priority)
      simpa using this

/-! ## Candidates with their positions -/

/-- The candidates, with their positions in the list that was given. -/
def ranked (rules : List Rule) : List (Rule × Nat) :=
  (rules.zipIdx.filter (·.1.enabled)).mergeSort fun a b => b.1.priority ≤ a.1.priority

theorem map_fst_ranked (rules : List Rule) : (ranked rules).map (·.1) = candidates rules := by
  have hfilter : (rules.zipIdx.filter (·.1.enabled)).map (·.1) = rules.filter (·.enabled) := by
    conv => rhs; rw [← List.zipIdx_map_fst 0 rules, List.filter_map]
    rfl
  rw [ranked, List.map_mergeSort (f := fun x : Rule × Nat => x.1)
    (s := fun a b => b.priority ≤ a.priority) fun _ _ _ _ => rfl, hfilter]
  rfl

theorem mem_ranked {rules : List Rule} {r : Rule} {i : Nat} :
    (r, i) ∈ ranked rules ↔ rules[i]? = some r ∧ r.enabled = true := by
  rw [ranked, List.mem_mergeSort, List.mem_filter, List.mem_zipIdx_iff_getElem?]

theorem pairwise_snd_zipIdx {α : Type} (l : List α) (n : Nat) :
    (l.zipIdx n).Pairwise fun a b => a.2 < b.2 := by
  induction l generalizing n with
  | nil => exact .nil
  | cons a l ih =>
    rw [List.zipIdx_cons, List.pairwise_cons]
    refine ⟨fun b hb => ?_, ih (n + 1)⟩
    exact (List.mem_zipIdx hb).1

/-- What descends, with the elements of each priority by ascending positions, is in order. -/
theorem pairwise_precedes {l : List (Rule × Nat)}
    (hpriority : l.Pairwise fun a b => b.1.priority ≤ a.1.priority)
    (hposition : ∀ p, (l.filter (·.1.priority = p)).Pairwise fun a b => a.2 < b.2) :
    l.Pairwise fun a b => Precedes a.1 a.2 b.1 b.2 := by
  induction l with
  | nil => exact .nil
  | cons a l ih =>
    rw [List.pairwise_cons] at hpriority ⊢
    refine ⟨fun b hb => ?_, ih hpriority.2 fun p => ?_⟩
    · rcases Int.lt_or_eq_of_le (hpriority.1 b hb) with hlt | heq
      · exact .inl hlt
      · have hpair := hposition a.1.priority
        rw [List.filter_cons_of_pos (by simp), List.pairwise_cons] at hpair
        exact .inr ⟨heq.symm, hpair.1 b (List.mem_filter.2 ⟨hb, by simp [heq]⟩)⟩
    · have hpair := hposition p
      rw [List.filter_cons] at hpair
      split at hpair
      · exact (List.pairwise_cons.1 hpair).2
      · exact hpair

/-- **Every candidate precedes those behind it.** -/
theorem pairwise_ranked (rules : List Rule) :
    (ranked rules).Pairwise fun a b => Precedes a.1 a.2 b.1 b.2 := by
  refine pairwise_precedes (pairwise_mergeSort_key (fun x : Rule × Nat => x.1.priority) _)
    fun p => ?_
  rw [ranked, filter_mergeSort_key (fun x : Rule × Nat => x.1.priority)]
  exact ((pairwise_snd_zipIdx rules 0).filter _).filter _

/-- The enabled rules that precede the rule at a position. -/
def preceding (rules : List Rule) (r : Rule) (i : Nat) : List Rule :=
  (rules.zipIdx.filter fun x => x.1.enabled && Precedes x.1 x.2 r i).map (·.1)

/-- **The candidates before one** are the enabled rules that precede it. -/
theorem perm_of_ranked {rules : List Rule} {before after : List (Rule × Nat)} {r : Rule} {i : Nat}
    (h : ranked rules = before ++ (r, i) :: after) :
    (before.map (·.1)).Perm (preceding rules r i) := by
  have hpair := pairwise_ranked rules
  rw [h, List.pairwise_append, List.pairwise_cons] at hpair
  have hbefore : before.filter (fun x => Precedes x.1 x.2 r i) = before :=
    List.filter_eq_self.2 fun x hx => decide_eq_true (hpair.2.2 x hx _ List.mem_cons_self)
  have hafter : ((r, i) :: after).filter (fun x => Precedes x.1 x.2 r i) = [] := by
    refine List.filter_eq_nil_iff.2 fun x hx => ?_
    rw [decide_eq_true_eq]
    rcases List.mem_cons.1 hx with rfl | hx
    · exact Precedes.irrefl r i
    · exact (hpair.2.1.1 x hx).asymm
  have hperm : (ranked rules).Perm (rules.zipIdx.filter (·.1.enabled)) := List.mergeSort_perm _ _
  have hfilter := hperm.filter (fun x => decide (Precedes x.1 x.2 r i))
  rw [h, List.filter_append, hbefore, hafter, List.append_nil, List.filter_filter] at hfilter
  have hcomm : (rules.zipIdx.filter fun x => decide (Precedes x.1 x.2 r i) && x.1.enabled) =
      rules.zipIdx.filter fun x => x.1.enabled && Precedes x.1 x.2 r i :=
    List.filter_congr fun x _ => Bool.and_comm _ _
  rw [hcomm] at hfilter
  exact hfilter.map _

end Routing

end MessageRouting
