import Mathlib.Logic.Relation
import MessageRouting.Proofs.Selection

/-!
# What a run depends on

A run sees the enabled rules in their order, up to the one that it selects. So it gives the same
result if rules are put in another order that keeps ties as they are, if disabled rules come or go,
and if rules behind the selected one do (`result_eq_of_unseen`). The last of these rests on where a
new rule stands among the candidates: the others keep their order (`ranked_insert`).
-/

namespace MessageRouting

open Expression Routing

/-- A change of the rules that a run does not see. -/
inductive Unseen [Interpreter] (evs : Course) (m : Message) : List Rule → List Rule → Prop
  /-- Another order, in which the enabled rules of each priority stand as before. -/
  | reorder {rules rules' : List Rule} (hperm : rules.Perm rules')
      (hties : ∀ p, (rules.filter (·.enabled)).filter (·.priority = p) =
        (rules'.filter (·.enabled)).filter (·.priority = p)) :
      Unseen evs m rules rules'
  /-- A disabled rule comes. -/
  | insertDisabled (a b : List Rule) {s : Rule} (hs : s.enabled = false) :
      Unseen evs m (a ++ b) (a ++ s :: b)
  /-- A disabled rule goes. -/
  | removeDisabled (a b : List Rule) {s : Rule} (hs : s.enabled = false) :
      Unseen evs m (a ++ s :: b) (a ++ b)
  /-- A rule comes that the selected one precedes. -/
  | insertLater (a b : List Rule) {r s : Rule} {i : Nat} (hr : Selected evs m (a ++ b) i r)
      (hs : Precedes r i s a.length) :
      Unseen evs m (a ++ b) (a ++ s :: b)
  /-- A rule goes that the selected one precedes. -/
  | removeLater (a b : List Rule) {r s : Rule} {i : Nat} (hr : Selected evs m (a ++ s :: b) i r)
      (hs : Precedes r i s a.length) :
      Unseen evs m (a ++ s :: b) (a ++ b)

namespace Routing

/-! ## Rules of the same order -/

theorem candidates_congr {rules rules' : List Rule}
    (h : ∀ p, (rules.filter (·.enabled)).filter (·.priority = p) =
      (rules'.filter (·.enabled)).filter (·.priority = p)) :
    candidates rules = candidates rules' := by
  refine eq_of_descending (pairwise_candidates rules) (pairwise_candidates rules') fun p => ?_
  rw [filter_priority_candidates, filter_priority_candidates, h]

theorem candidates_insert_disabled (a b : List Rule) {s : Rule} (hs : s.enabled = false) :
    candidates (a ++ s :: b) = candidates (a ++ b) := by
  simp [candidates, hs]

/-! ## A new rule -/

/-- Where a rule stands when another one is inserted at a position. -/
def shifted (n : Nat) (x : Rule × Nat) : Rule × Nat := (x.1, if x.2 < n then x.2 else x.2 + 1)

theorem shifted_of_lt {r : Rule} {n i : Nat} (h : i < n) : shifted n (r, i) = (r, i) := by
  simp only [shifted, h, ↓reduceIte]

theorem shifted_of_le {r : Rule} {n i : Nat} (h : n ≤ i) : shifted n (r, i) = (r, i + 1) := by
  simp only [shifted, Nat.not_lt.2 h, ↓reduceIte]

theorem precedes_shifted (n : Nat) (x y : Rule × Nat) :
    Precedes (shifted n x).1 (shifted n x).2 (shifted n y).1 (shifted n y).2 ↔
      Precedes x.1 x.2 y.1 y.2 := by
  simp only [Precedes, shifted]
  split <;> split <;> omega

/-- The rules other than the new one, with their positions. -/
theorem zipIdx_insert (a b : List Rule) (s : Rule) :
    (a ++ s :: b).zipIdx.filter (·.2 ≠ a.length) = (a ++ b).zipIdx.map (shifted a.length) := by
  have ha : ∀ x ∈ a.zipIdx, x.2 < a.length := fun x hx => by simpa using (List.mem_zipIdx hx).2.1
  have hb : ∀ k, ∀ x ∈ b.zipIdx k, k ≤ x.2 := fun k x hx => (List.mem_zipIdx hx).1
  have hkept : a.zipIdx.filter (·.2 ≠ a.length) = a.zipIdx :=
    List.filter_eq_self.2 fun x hx => decide_eq_true (Nat.ne_of_lt (ha x hx))
  have hkept' : (b.zipIdx (a.length + 1)).filter (·.2 ≠ a.length) = b.zipIdx (a.length + 1) :=
    List.filter_eq_self.2 fun x hx => decide_eq_true (Nat.ne_of_gt (hb _ x hx))
  have hmap : a.zipIdx.map (shifted a.length) = a.zipIdx.map id :=
    List.map_congr_left fun x hx => shifted_of_lt (ha x hx)
  have hmap' : (b.zipIdx a.length).map (shifted a.length) =
      (b.zipIdx a.length).map (Prod.map id (· + 1)) :=
    List.map_congr_left fun x hx => shifted_of_le (hb _ x hx)
  rw [List.zipIdx_append, List.filter_append, Nat.zero_add, List.zipIdx_cons,
    List.filter_cons_of_neg (by simp), hkept, hkept', List.zipIdx_append, List.map_append,
    Nat.zero_add, hmap, hmap', List.map_id, List.map_snd_add_zipIdx_eq_zipIdx, Nat.add_comm]

/-- **A new rule leaves the order of the others as it is.** -/
theorem ranked_insert (a b : List Rule) (s : Rule) :
    (ranked (a ++ s :: b)).filter (·.2 ≠ a.length) = (ranked (a ++ b)).map (shifted a.length) := by
  have hpair : ((ranked (a ++ s :: b)).filter (·.2 ≠ a.length)).Pairwise
      fun x y => Precedes x.1 x.2 y.1 y.2 := (pairwise_ranked _).filter _
  have hpair' : ((ranked (a ++ b)).map (shifted a.length)).Pairwise
      fun x y => Precedes x.1 x.2 y.1 y.2 :=
    List.pairwise_map.2 ((pairwise_ranked _).imp (precedes_shifted a.length _ _).2)
  refine List.Perm.eq_of_pairwise (fun x y _ _ hxy hyx => absurd hyx hxy.asymm) hpair hpair' ?_
  calc ((ranked (a ++ s :: b)).filter (·.2 ≠ a.length)).Perm
        (((a ++ s :: b).zipIdx.filter (·.1.enabled)).filter (·.2 ≠ a.length)) :=
        (List.mergeSort_perm _ _).filter _
      _ = ((a ++ s :: b).zipIdx.filter (·.2 ≠ a.length)).filter (·.1.enabled) := by
        rw [List.filter_filter, List.filter_filter]
        exact List.filter_congr fun x _ => Bool.and_comm _ _
      _ = ((a ++ b).zipIdx.filter (·.1.enabled)).map (shifted a.length) := by
        rw [zipIdx_insert, List.filter_map]
        rfl
      List.Perm _ ((ranked (a ++ b)).map (shifted a.length)) :=
        ((List.mergeSort_perm _ _).map _).symm

/-- A rule that precedes the new one still does. -/
theorem precedes_shifted_of_precedes {r s : Rule} {n i : Nat} (h : Precedes r i s n) :
    Precedes r (shifted n (r, i)).2 s n := by
  simp only [Precedes, shifted] at h ⊢
  split <;> omega

/-- Rules that do not follow one before the new rule stand elsewhere than the new rule. -/
theorem position_ne {a b : List Rule} {r s t : Rule} {i j : Nat}
    (ht : (a ++ s :: b)[j]? = some t) (hs : Precedes r i s a.length) (h : ¬ Precedes r i t j) :
    j ≠ a.length := by
  rintro rfl
  obtain rfl : s = t := by simpa using ht
  exact h hs

/-- The new rule does not precede a rule that goes before it. -/
theorem preceding_insert_later (a b : List Rule) {r s : Rule} {i : Nat}
    (hs : Precedes r i s a.length) :
    preceding (a ++ s :: b) r (shifted a.length (r, i)).2 = preceding (a ++ b) r i := by
  have hfilter : (a ++ s :: b).zipIdx.filter
        (fun x => x.1.enabled && Precedes x.1 x.2 r (shifted a.length (r, i)).2) =
      ((a ++ s :: b).zipIdx.filter (·.2 ≠ a.length)).filter
        (fun x => x.1.enabled && Precedes x.1 x.2 r (shifted a.length (r, i)).2) := by
    rw [List.filter_filter]
    refine List.filter_congr fun x hx => ?_
    by_cases hprecedes : Precedes x.1 x.2 r (shifted a.length (r, i)).2
    · have hne := position_ne (List.mem_zipIdx_iff_getElem?.1 hx) (precedes_shifted_of_precedes hs)
        hprecedes.asymm
      simp [hne]
    · simp [hprecedes]
  have hsame : ∀ x : Rule × Nat, decide (Precedes (shifted a.length x).1 (shifted a.length x).2 r
      (shifted a.length (r, i)).2) = decide (Precedes x.1 x.2 r i) := fun x =>
    decide_eq_decide.2 (precedes_shifted a.length x (r, i))
  simp only [preceding, hfilter, zipIdx_insert, List.filter_map, List.map_map, Function.comp_def,
    hsame]
  rfl

/-- A rule that precedes the new one stands behind the same candidates with and without it. -/
theorem ranked_insert_later (a b : List Rule) {r s : Rule} {i : Nat}
    (hr : (r, i) ∈ ranked (a ++ s :: b)) (hs : Precedes r i s a.length) :
    ∃ before after after', ranked (a ++ s :: b) = before ++ (r, i) :: after ∧
      (ranked (a ++ b)).map (shifted a.length) = before ++ (r, i) :: after' := by
  obtain ⟨before, after, hsplit⟩ := List.append_of_mem hr
  have hpair := pairwise_ranked (a ++ s :: b)
  rw [hsplit, List.append_cons, List.pairwise_append] at hpair
  have hget : ∀ x ∈ before ++ [(r, i)], (a ++ s :: b)[x.2]? = some x.1 := fun x hx => by
    refine (mem_ranked.1 ?_).1
    rw [hsplit, List.append_cons]
    exact List.mem_append_left _ hx
  have hkept : ∀ x ∈ before ++ [(r, i)], decide (x.2 ≠ a.length) = true := by
    refine fun x hx => decide_eq_true (position_ne (hget x hx) hs ?_)
    rcases List.mem_append.1 hx with hx | hx
    · exact ((List.pairwise_append.1 hpair.1).2.2 x hx _ List.mem_cons_self).asymm
    · rw [List.mem_singleton.1 hx]
      exact Precedes.irrefl r i
  refine ⟨before, after, after.filter (·.2 ≠ a.length), hsplit, ?_⟩
  rw [← ranked_insert, hsplit, List.append_cons, List.filter_append,
    List.filter_eq_self.2 hkept, ← List.append_cons]

/-! ## What a search sees -/

variable [Interpreter] {evs : Course} {m : Message}

/-- A search does not see what stands behind a rule that matches. -/
theorem search_append_of_matched {before : List Rule} {r : Rule} (after after' : List Rule)
    (h : (examine (evs.after (conditionCount before)) m r).matched = true) :
    search evs m (before ++ r :: after) = search evs m (before ++ r :: after') := by
  induction before generalizing evs with
  | nil =>
    rw [conditionCount_nil, after_zero] at h
    simp only [List.nil_append, search, h, ↓reduceIte]
  | cons s before ih =>
    rw [conditionCount_cons, ← after_after] at h
    simp only [List.cons_append, search, ih h]

/-- Rules that a selected one precedes are not seen. -/
theorem search_insert_later (a b : List Rule) {r s : Rule} {i : Nat}
    (hr : r.Applies evs m (a ++ s :: b) i) (hs : Precedes r i s a.length) :
    search evs m (candidates (a ++ s :: b)) = search evs m (candidates (a ++ b)) := by
  obtain ⟨before, after, after', hsplit, hsplit'⟩ :=
    ranked_insert_later a b (mem_ranked.2 ⟨hr.1, hr.2.1⟩) hs
  have hmatched := (applies_iff_matched hsplit).1 hr
  have hcandidates : candidates (a ++ s :: b) = before.map (·.1) ++ r :: after.map (·.1) := by
    rw [← map_fst_ranked, hsplit, List.map_append, List.map_cons]
  have hcandidates' : candidates (a ++ b) = before.map (·.1) ++ r :: after'.map (·.1) := by
    have hfst : (·.1) ∘ shifted a.length = (·.1) := rfl
    have hmap := congrArg (List.map (·.1)) hsplit'
    rwa [List.map_map, hfst, map_fst_ranked, List.map_append, List.map_cons] at hmap
  rw [atCandidate, hcandidates, ← List.length_map (·.1), List.take_left] at hmatched
  rw [hcandidates, hcandidates', search_append_of_matched _ (after'.map (·.1)) hmatched]

/-- A rule that precedes the new one applies just as it did. -/
theorem applies_insert_later (a b : List Rule) {r s : Rule} {i : Nat}
    (hr : r.Applies evs m (a ++ b) i) (hs : Precedes r i s a.length) :
    r.Applies evs m (a ++ s :: b) (shifted a.length (r, i)).2 := by
  obtain ⟨hget, henabled, hholds⟩ := hr
  have hmem : shifted a.length (r, i) ∈ (a ++ s :: b).zipIdx.filter (·.2 ≠ a.length) :=
    zipIdx_insert a b s ▸ List.mem_map_of_mem (List.mem_zipIdx_iff_getElem?.2 hget)
  refine ⟨List.mem_zipIdx_iff_getElem?.1 (List.mem_filter.1 hmem).1, henabled, ?_⟩
  rwa [preceding_insert_later a b hs]

/-- A change that is not seen leaves the search as it is. -/
theorem search_eq_of_unseen {rules rules' : List Rule} (h : Unseen evs m rules rules') :
    search evs m (candidates rules') = search evs m (candidates rules) := by
  cases h with
  | reorder _ hties => rw [candidates_congr hties]
  | insertDisabled a b hs => rw [candidates_insert_disabled a b hs]
  | removeDisabled a b hs => rw [candidates_insert_disabled a b hs]
  | insertLater a b hr hs =>
    exact search_insert_later a b (applies_insert_later a b hr.applies hs)
      (precedes_shifted_of_precedes hs)
  | removeLater a b hr hs => exact (search_insert_later a b hr.applies hs).symm

/-- The result of a run follows from the search. -/
theorem result_eq_of_search_eq {rules rules' : List Rule}
    (h : search evs m (candidates rules') = search evs m (candidates rules)) :
    (routeAlong evs rules' m).result = (routeAlong evs rules m).result := by
  have hresult : ∀ (ev : Evaluator) (n n' : Nat) (xs : List (Rule × Examination))
      (route : Option Route), (conclude ev (searched n xs) m route).result =
        (conclude ev (searched n' xs) m route).result := by
    intro ev n n' xs route
    rcases route with _ | ⟨name, destination, _ | e⟩ <;> rfl
  rw [routeAlong, routeAlong, h]
  exact hresult _ _ _ _ _

end Routing

/-- **A run depends only on what it sees.** After any changes of the rules that a run does not see,
it gives the same result, with the same trace. -/
theorem result_eq_of_unseen [Interpreter] {evs : Course} {m : Message} {rules rules' : List Rule}
    (h : Relation.ReflTransGen (Unseen evs m) rules rules') :
    (routeAlong evs rules' m).result = (routeAlong evs rules m).result := by
  induction h with
  | refl => rfl
  | tail _ hstep ih => exact (result_eq_of_search_eq (search_eq_of_unseen hstep)).trans ih

/-- A rule that every message matches. -/
def everyMessage (name : String) (enabled : Bool) (priority : Int) : Rule where
  name := name
  description := none
  enabled := enabled
  priority := priority
  conditions := []
  combination := .all
  transform := none
  destination := "queue"

/-- An evaluator that finds nothing. -/
def findingNothing : Evaluator where
  evaluate _ _ := ⟨.answered (.ofOutput .null), []⟩
  validate _ := ⟨.answered ⟨true, none, []⟩, []⟩

section

open scoped Interpreter.Usual

theorem result_eq_of_unseen_three_changes :
    (routeAlong (.constant findingNothing)
        [everyMessage "first" true 200, everyMessage "late" true 100] Message.empty).result =
      (routeAlong (.constant findingNothing)
        [everyMessage "off" false 900, everyMessage "first" true 200] Message.empty).result := by
  have hfirst : Selected (.constant findingNothing) Message.empty
      [everyMessage "first" true 200] 0 (everyMessage "first" true 200) :=
    ⟨⟨rfl, rfl, .inl rfl⟩, fun j s hs => by
      cases j with
      | zero =>
        cases hs.1
        exact Precedes.irrefl _ _
      | succ j => cases hs.1⟩
  have hremove : Unseen (.constant findingNothing) Message.empty
      [everyMessage "off" false 900, everyMessage "first" true 200]
      [everyMessage "first" true 200] := .removeDisabled [] _ rfl
  have hinsert : Unseen (.constant findingNothing) Message.empty
      [everyMessage "first" true 200]
      [everyMessage "late" true 100, everyMessage "first" true 200] :=
    .insertLater [] _ hfirst (.inl (by decide))
  have hreorder : Unseen (.constant findingNothing) Message.empty
      [everyMessage "late" true 100, everyMessage "first" true 200]
      [everyMessage "first" true 200, everyMessage "late" true 100] := by
    refine .reorder (List.Perm.swap _ _ _) fun p => ?_
    by_cases hlate : 100 = p
    · subst hlate
      rfl
    · simp [everyMessage, List.filter_cons, hlate]
  exact result_eq_of_unseen (((Relation.ReflTransGen.single hremove).tail hinsert).tail hreorder)

end

end MessageRouting
