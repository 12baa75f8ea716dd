import MessageRouting.Draft.Order
import MessageRouting.Proofs.Candidates

/-!
# The order of drafts

Drafts of rules are put in the order of the rules themselves (`candidates_map_draft`). Drafts are
inserted by halves into a part that is in order already, and rules are sorted all at once; but a
descending order that keeps the rules of each priority as they were given is unique.
-/

namespace MessageRouting.DraftRule

/-- Rules by ascending priority; those of one priority stand as in the list that was given. -/
structure InOrder (out given : List Rule) : Prop where
  /-- The priorities ascend. -/
  pairwise : out.Pairwise fun a b => a.priority ≤ b.priority
  /-- Nothing else has changed. -/
  filter_eq : ∀ p, out.filter (·.priority = p) = given.filter (·.priority = p)

/-- The place of a rule among rules in order: behind all that it does not have to precede. -/
structure Place (sorted : List Rule) (r : Rule) (i : Nat) : Prop where
  /-- It is a place in the list or at its end. -/
  le : i ≤ sorted.length
  /-- No rule before it has a higher priority. -/
  before : ∀ s ∈ sorted.take i, s.priority ≤ r.priority
  /-- All rules behind it have a higher priority. -/
  after : ∀ s ∈ sorted.drop i, r.priority < s.priority

/-! ## Rules in order -/

/-- A rule in its place is in order behind the rules that were given before it. -/
theorem InOrder.insert {sorted given : List Rule} (h : InOrder sorted given) {r : Rule} {i : Nat}
    (hi : Place sorted r i) : InOrder (sorted.take i ++ [r] ++ sorted.drop i) (given ++ [r]) := by
  have hpair := h.pairwise
  rw [← List.take_append_drop i sorted, List.pairwise_append] at hpair
  constructor
  · rw [List.append_assoc, List.singleton_append, List.pairwise_append, List.pairwise_cons]
    refine ⟨hpair.1, ⟨fun s hs => Int.le_of_lt (hi.after s hs), hpair.2.1⟩, fun a ha b hb => ?_⟩
    rcases List.mem_cons.1 hb with rfl | hb
    · exact hi.before a ha
    · exact hpair.2.2 a ha b hb
  · intro p
    have hsplit : (sorted.take i).filter (·.priority = p) ++
        (sorted.drop i).filter (·.priority = p) = given.filter (·.priority = p) := by
      rw [← List.filter_append, List.take_append_drop, h.filter_eq]
    rw [List.filter_append, List.filter_append, List.filter_append, ← hsplit]
    by_cases hp : r.priority = p
    · -- behind its place there is no rule of its own priority
      have hnil : (sorted.drop i).filter (·.priority = p) = [] := by
        refine List.filter_eq_nil_iff.2 fun s hs => ?_
        have := hi.after s hs
        simp only [decide_eq_true_eq]
        omega
      simp [hnil]
    · simp [hp]

/-- How a run goes on: it falls strictly, or it does not fall at all. -/
def Follows (falling : Bool) (a b : Rule) : Prop := decide (b.priority < a.priority) = falling

theorem Follows.trans {falling : Bool} {a b c : Rule} (hab : Follows falling a b)
    (hbc : Follows falling b c) : Follows falling a c := by
  cases falling <;> simp only [Follows, decide_eq_true_eq, decide_eq_false_iff_not] at * <;> omega

/-- A run is in order, once it is reversed if it falls: then no two of its rules have the same
priority. -/
theorem InOrder.ofRun {falling : Bool} {rs : List Rule} (h : rs.Pairwise (Follows falling)) :
    InOrder (if falling then rs.reverse else rs) rs := by
  cases falling with
  | false =>
    exact ⟨h.imp fun hab => Int.not_lt.1 (of_decide_eq_false hab), fun _ => rfl⟩
  | true =>
    have hlt : rs.Pairwise fun a b => b.priority < a.priority := h.imp of_decide_eq_true
    refine ⟨List.pairwise_reverse.2 (hlt.imp Int.le_of_lt), fun p => ?_⟩
    rw [if_pos rfl, List.filter_reverse]
    have hpair := hlt.filter (·.priority = p)
    have hpriority : ∀ r ∈ rs.filter (·.priority = p), r.priority = p := fun r hr =>
      of_decide_eq_true (List.mem_filter.1 hr).2
    generalize rs.filter (·.priority = p) = l at hpair hpriority ⊢
    rcases l with _ | ⟨a, _ | ⟨b, l⟩⟩
    · rfl
    · rfl
    · have hba := (List.pairwise_cons.1 hpair).1 b List.mem_cons_self
      have ha := hpriority a List.mem_cons_self
      have hb := hpriority b (List.mem_cons_of_mem _ List.mem_cons_self)
      omega

/-- The drafts of the rules that take part take part. -/
theorem enabledAmong_draft (rules : List Rule) :
    enabledAmong (rules.map Rule.draft) = .ok ((rules.filter (·.enabled)).map Rule.draft) := by
  induction rules with
  | nil => rfl
  | cons r rs ih =>
    have hr : r.draft.enabled.isFilled = .ok r.enabled := rfl
    rw [List.map_cons, enabledAmong, hr, ih]
    cases h : r.enabled <;> simp [h, bind, Except.bind, pure, Except.pure]

/-! ## Insertion -/

variable [Interpreter]

theorem before_draft (a b : Rule) :
    DraftRule.before a.draft b.draft = .ok (decide (a.priority < b.priority)) := by
  simp only [DraftRule.before, Rule.draft, Attribute.less, Value.less, Value.lessIn, Value.int,
    Scalar.less, Scalar.toNumber?, Scalar.compareNumbers?, Option.some.injEq, Int.compare_eq_lt]

/-- Halving finds the place of a rule. -/
theorem placeAmong_draft {sorted : List Rule}
    (hs : sorted.Pairwise fun a b => a.priority ≤ b.priority) (r : Rule) (fuel low high : Nat)
    (hfuel : high - low ≤ fuel) (hle : low ≤ high) (hlen : high ≤ sorted.length)
    (hlow : ∀ s ∈ sorted.take low, s.priority ≤ r.priority)
    (hhigh : ∀ s ∈ sorted.drop high, r.priority < s.priority) :
    ∃ i, placeAmong (sorted.map Rule.draft).toArray r.draft fuel low high = .ok i ∧
      Place sorted r i := by
  induction fuel generalizing low high with
  | zero =>
    obtain rfl : low = high := by omega
    exact ⟨low, rfl, hlen, hlow, hhigh⟩
  | succ fuel ih =>
    rw [placeAmong]
    by_cases hempty : high ≤ low
    · obtain rfl : low = high := by omega
      exact ⟨low, by simp [pure, Except.pure], hlen, hlow, hhigh⟩
    · have hm : low + (high - low) / 2 < sorted.length := by omega
      generalize hmid : low + (high - low) / 2 = middle at hm
      have hdrop := List.drop_eq_getElem_cons hm
      have htake := List.take_succ_eq_append_getElem hm
      have hpair : (sorted.take middle ++ sorted[middle] :: sorted.drop (middle + 1)).Pairwise
          fun a b => a.priority ≤ b.priority := by
        rwa [← hdrop, List.take_append_drop]
      rw [List.pairwise_append, List.pairwise_cons] at hpair
      have hget : (sorted.map Rule.draft).toArray[middle]? = some sorted[middle].draft := by
        simp [hm]
      simp only [hempty, ↓reduceIte, hget, before_draft, bind, Except.bind]
      by_cases hlt : r.priority < sorted[middle].priority
      · obtain ⟨i, hi, hplace⟩ := ih low middle (by omega) (by omega) (by omega) hlow (by
          rw [hdrop]
          intro s hs
          rcases List.mem_cons.1 hs with rfl | hs
          · exact hlt
          · exact Int.lt_of_lt_of_le hlt (hpair.2.1.1 s hs))
        exact ⟨i, by simpa [hlt] using hi, hplace⟩
      · obtain ⟨i, hi, hplace⟩ := ih (middle + 1) high (by omega) (by omega) hlen (by
          rw [htake]
          intro s hs
          rcases List.mem_append.1 hs with hs | hs
          · have := hpair.2.2 s hs _ List.mem_cons_self
            omega
          · obtain rfl := List.mem_singleton.1 hs
            omega) hhigh
        exact ⟨i, by simpa [hlt] using hi, hplace⟩

theorem insertAll_draft (rs : List Rule) {sorted given : List Rule} (h : InOrder sorted given) :
    ∃ out, insertAll (rs.map Rule.draft) (sorted.map Rule.draft).toArray =
      .ok (out.map Rule.draft).toArray ∧ InOrder out (given ++ rs) := by
  induction rs generalizing sorted given with
  | nil => exact ⟨sorted, rfl, by rwa [List.append_nil]⟩
  | cons r rs ih =>
    obtain ⟨i, hi, hplace⟩ := placeAmong_draft h.pairwise r (sorted.length + 1) 0 sorted.length
      (by omega) (by omega) (by omega) (by simp) (by simp)
    obtain ⟨out, hout, horder⟩ := ih (h.insert hplace)
    refine ⟨out, ?_, by rwa [List.append_assoc, List.singleton_append] at horder⟩
    have htake : (sorted.map Rule.draft).take sorted.length = sorted.map Rule.draft :=
      List.take_of_length_le (Nat.le_of_eq (List.length_map _))
    rw [List.map_cons, insertAll, List.size_toArray, List.length_map, hi, ← hout]
    simp [bind, Except.bind, List.extract_eq_drop_take', htake]

/-! ## Runs -/

/-- Rules consist of a run and a rest. -/
theorem run_draft (falling : Bool) (last : Rule) (rs : List Rule) :
    ∃ more rest, run falling last.draft (rs.map Rule.draft) =
        .ok (more.map Rule.draft, rest.map Rule.draft) ∧ rs = more ++ rest ∧
      (last :: more).Pairwise (Follows falling) := by
  induction rs generalizing last with
  | nil => exact ⟨[], [], rfl, rfl, List.pairwise_singleton _ _⟩
  | cons r rs ih =>
    simp only [List.map_cons, run, before_draft, bind, Except.bind]
    by_cases hr : decide (r.priority < last.priority) = falling
    · obtain ⟨more, rest, hrun, rfl, hpair⟩ := ih r
      refine ⟨r :: more, rest, ?_, rfl, List.pairwise_cons.2 ⟨fun s hs => ?_, hpair⟩⟩
      · simp only [hr, ↓reduceIte, hrun]
        rfl
      · rcases List.mem_cons.1 hs with rfl | hs
        · exact hr
        · exact Follows.trans hr ((List.pairwise_cons.1 hpair).1 s hs)
    · refine ⟨[], r :: rs, ?_, rfl, List.pairwise_singleton _ _⟩
      simp only [hr, ↓reduceIte]
      rfl

theorem ascending_draft (rs : List Rule) :
    ∃ out, ascending (rs.map Rule.draft) = .ok (out.map Rule.draft) ∧ InOrder out rs := by
  match rs with
  | [] => exact ⟨[], rfl, .nil, fun _ => rfl⟩
  | [r] => exact ⟨[r], rfl, List.pairwise_singleton _ _, fun _ => rfl⟩
  | r :: s :: rs =>
    generalize hfalling : decide (s.priority < r.priority) = falling
    obtain ⟨more, rest, hrun, rfl, hpair⟩ := run_draft falling s rs
    have hpair' : (r :: s :: more).Pairwise (Follows falling) := by
      refine List.pairwise_cons.2 ⟨fun t ht => ?_, hpair⟩
      rcases List.mem_cons.1 ht with rfl | ht
      · exact hfalling
      · exact Follows.trans hfalling ((List.pairwise_cons.1 hpair).1 t ht)
    obtain ⟨out, hout, horder⟩ := insertAll_draft rest (InOrder.ofRun hpair')
    have hstart : (if falling then (r :: s :: more).reverse else r :: s :: more).map Rule.draft =
        if falling then (r.draft :: s.draft :: more.map Rule.draft).reverse
        else r.draft :: s.draft :: more.map Rule.draft := by
      cases falling <;> simp
    rw [hstart] at hout
    refine ⟨out, ?_, horder⟩
    simp only [List.map_cons, ascending, before_draft, bind, Except.bind, hfalling, hrun, hout]
    rfl

/-! ## The candidates -/

/-- **Drafts of rules stand in the order of the rules.** -/
theorem candidates_map_draft (rules : List Rule) :
    candidates (rules.map Rule.draft) = .ok ((Routing.candidates rules).map Rule.draft) := by
  obtain ⟨out, hout, horder⟩ := ascending_draft (rules.filter (·.enabled)).reverse
  have heq : out.reverse = Routing.candidates rules := by
    refine Routing.eq_of_descending (List.pairwise_reverse.2 horder.pairwise)
      (Routing.pairwise_candidates rules) fun p => ?_
    rw [List.filter_reverse, horder.filter_eq, List.filter_reverse, List.reverse_reverse,
      Routing.filter_priority_candidates]
  rw [candidates, enabledAmong_draft, ← heq, List.map_reverse]
  simp only [bind, Except.bind, ← List.map_reverse, hout]
  rfl

end MessageRouting.DraftRule
