import MessageRouting.Proofs.JsonValues
import MessageRouting.Value.Equality

/-!
# Comparisons that have a limit

A comparison goes down into both values at once and stops at the first difference. What it answers
is what `Value.same` says, and it answers wherever the first value nests no deeper than it can go
(`equalsIn_within`). Only the parts of pairs are compared in another way, with a limit of their own.
-/

namespace MessageRouting

/-- A comparison answers a truth value, or it fails where something does not hold. -/
def Within (fits : Prop) (answer : Except Fault Bool) (b : Bool) : Prop :=
  match answer with
  | .ok c => c = b
  | .error _ => ¬ fits

namespace Within

variable {p q : Prop} {answer next : Except Fault Bool} {b c : Bool}

theorem ok (p : Prop) (b : Bool) : Within p (.ok b) b := rfl

theorem error (f : Fault) (h : ¬ p) : Within p (.error f) b := h

theorem mono (h : Within p answer b) (hpq : q → p) : Within q answer b := by
  cases answer with
  | ok c => exact h
  | error f => exact fun hq => h (hpq hq)

theorem eq_ok (h : Within p answer b) (hp : p) : answer = .ok b := by
  cases answer with
  | ok c => exact congrArg Except.ok h
  | error f => exact absurd hp h

theorem eq_of_ok (h : Within p answer b) (hc : answer = .ok c) : c = b := by
  subst hc
  exact h

/-- One comparison after another that holds. -/
theorem and_then (h : Within p answer b) (hnext : b = true → Within q next c) :
    Within (p ∧ q) (do if ← answer then next else return false) (b && c) := by
  cases answer with
  | error f => exact fun hpq => h hpq.1
  | ok b' =>
    obtain rfl : b' = b := h
    cases b' with
    | false => rfl
    | true => exact (hnext rfl).mono And.right

end Within

namespace Value

variable {xs ys : List Value} {ms ns : List (Scalar × Value)}

/-! ## Parts of pairs -/

theorem length_eq_of_alikeItems (h : alikeItems xs ys = true) : xs.length = ys.length := by
  induction xs generalizing ys with
  | nil =>
    cases ys with
    | nil => rfl
    | cons y ys => cases h
  | cons x xs ih =>
    cases ys with
    | nil => cases h
    | cons y ys =>
      rw [alikeItems, Bool.and_eq_true] at h
      exact congrArg Nat.succ (ih h.2)

/-- Where there is a member of each name, there is each name. -/
theorem namesWithin_of_alikeMembers (h : alikeMembers ms ns = true) :
    namesWithin ms ns = true := by
  induction ms with
  | nil => rfl
  | cons m ms ih =>
    rw [alikeMembers, Bool.and_eq_true] at h
    rw [namesWithin, List.all_cons, Bool.and_eq_true]
    refine ⟨?_, ih h.2⟩
    cases hmember : memberOf? ns m.1 with
    | none =>
      rw [hmember] at h
      cases h.1
    | some w =>
      obtain ⟨n, hn, -⟩ := Option.map_eq_some_iff.1 hmember
      exact List.any_eq_true.2 ⟨n, List.mem_of_find?_eq_some hn,
        List.find?_some (p := fun n : Scalar × Value => n.1.sameName m.1) hn⟩

section

variable [Interpreter]

mutual

/-- Parts of pairs are compared within the limit. -/
theorem alikeIn_within (room : Nat) : ∀ v w : Value,
    Within (v.height ≤ room) (alikeIn room v w) (alike v w)
  | .list xs, .list ys => by
    rw [alikeIn, alike, height_list]
    split
    · exact alikeItemsIn_within room xs ys ‹_›
    · rename_i hlength
      rw [Bool.eq_false_iff.2 (mt length_eq_of_alikeItems hlength)]
      exact .ok _ _
  | .object ms, .object ns => by
    rw [alikeIn, alike, height_object]
    split
    · rename_i hlength
      have hmembers := alikeMembersIn_within room ms ns
      cases h : alikeMembers ms ns with
      | true =>
        rw [h] at hmembers
        rw [decide_eq_true hlength, namesWithin_of_alikeMembers h]
        exact hmembers
      | false =>
        rw [h] at hmembers
        rw [Bool.and_false]
        exact hmembers
    · rename_i hlength
      rw [decide_eq_false hlength, Bool.false_and, Bool.false_and]
      exact .ok _ _
  | .pair v w, .pair v' w' => by
    cases room with
    | zero =>
      rw [alikeIn, height_pair]
      exact .error _ (Nat.not_succ_le_zero _)
    | succ deeper =>
      rw [alikeIn, alike, height_pair]
      refine ((alikeIn_within deeper v v').and_then fun _ => alikeIn_within deeper w w').mono ?_
      intro h
      omega
  | .scalar _, _ | .set _, _ => .ok _ _
  | .list _, .scalar _ | .list _, .object _ | .list _, .set _ | .list _, .pair .. => .ok _ _
  | .object _, .scalar _ | .object _, .list _ | .object _, .set _ | .object _, .pair .. => .ok _ _
  | .pair .., .scalar _ | .pair .., .list _ | .pair .., .object _ | .pair .., .set _ => .ok _ _

theorem alikeItemsIn_within (room : Nat) : ∀ xs ys : List Value, xs.length = ys.length →
    Within (itemsLevels 1 xs + 1 ≤ room) (alikeItemsIn room xs ys) (alikeItems xs ys)
  | [], [], _ => .ok _ _
  | [], _ :: _, h | _ :: _, [], h => nomatch h
  | x :: xs, y :: ys, h => by
    rw [itemsLevels_cons, alikeItems]
    cases room with
    | zero =>
      rw [alikeItemsIn]
      exact .error _ (Nat.not_succ_le_zero _)
    | succ deeper =>
      rw [alikeItemsIn]
      refine ((alikeIn_within deeper x y).and_then fun _ =>
        alikeItemsIn_within (deeper + 1) xs ys (Nat.succ.inj h)).mono ?_
      intro h
      omega

theorem alikeMembersIn_within (room : Nat) : ∀ ms ns : List (Scalar × Value),
    Within (membersLevels 1 ms + 1 ≤ room) (alikeMembersIn room ms ns) (alikeMembers ms ns)
  | [], _ => by
    rw [alikeMembersIn]
    exact .ok _ _
  | (name, v) :: ms, ns => by
    rw [membersLevels_cons, alikeMembers]
    cases hmember : memberOf? ns name with
    | none =>
      simp only [alikeMembersIn, hmember]
      exact .ok _ _
    | some w =>
      cases room with
      | zero =>
        simp only [alikeMembersIn, hmember]
        exact .error _ (Nat.not_succ_le_zero _)
      | succ deeper =>
        simp only [alikeMembersIn, hmember]
        refine ((alikeIn_within deeper v w).and_then fun _ =>
          alikeMembersIn_within (deeper + 1) ms ns).mono ?_
        intro h
        omega

end

end

/-! ## Values -/

mutual

/-- The height of the highest pair in a value. -/
def pairHeight : Value → Nat
  | .scalar _ | .set _ => 0
  | .list xs => itemsPairHeight xs
  | .object ms => membersPairHeight ms
  | .pair v w => (pair v w).height

/-- The height of the highest pair in some items. -/
def itemsPairHeight : List Value → Nat
  | [] => 0
  | v :: vs => max (pairHeight v) (itemsPairHeight vs)

/-- The height of the highest pair in what some members hold. -/
def membersPairHeight : List (Scalar × Value) → Nat
  | [] => 0
  | (_, v) :: ms => max (pairHeight v) (membersPairHeight ms)

end

section

variable {name scalar : Scalar → Bool}

mutual

/-- In a value made of lists and objects there are no pairs. -/
theorem pairHeight_of_consists : ∀ v : Value, v.consists name scalar = true → v.pairHeight = 0
  | .scalar _, _ => by rw [pairHeight]
  | .list xs, h => by
    rw [consists] at h
    rw [pairHeight, itemsPairHeight_of_consist xs h]
  | .object ms, h => by
    rw [consists] at h
    rw [pairHeight, membersPairHeight_of_consist ms h]
  | .set _, h => by
    rw [consists] at h
    cases h
  | .pair _ _, h => by
    rw [consists] at h
    cases h

theorem itemsPairHeight_of_consist :
    ∀ xs : List Value, itemsConsist name scalar xs = true → itemsPairHeight xs = 0
  | [], _ => by rw [itemsPairHeight]
  | v :: vs, h => by
    rw [itemsConsist, Bool.and_eq_true] at h
    rw [itemsPairHeight, pairHeight_of_consists v h.1, itemsPairHeight_of_consist vs h.2,
      Nat.max_self]

theorem membersPairHeight_of_consist :
    ∀ ms : List (Scalar × Value), membersConsist name scalar ms = true → membersPairHeight ms = 0
  | [], _ => by rw [membersPairHeight]
  | (_, v) :: ms, h => by
    rw [membersConsist, Bool.and_eq_true, Bool.and_eq_true] at h
    rw [membersPairHeight, pairHeight_of_consists v h.1.2, membersPairHeight_of_consist ms h.2,
      Nat.max_self]

end

end

theorem length_eq_of_sameItems (h : sameItems xs ys = true) : xs.length = ys.length := by
  induction xs generalizing ys with
  | nil =>
    cases ys with
    | nil => rfl
    | cons y ys => cases h
  | cons x xs ih =>
    cases ys with
    | nil => cases h
    | cons y ys =>
      rw [sameItems, Bool.and_eq_true] at h
      exact congrArg Nat.succ (ih h.2)

variable [Interpreter]

mutual

/-- **A comparison answers what `same` says**, and it answers within the limits. -/
theorem equalsIn_within (room : Nat) : ∀ v w : Value,
    Within (v.height ≤ room ∧ v.pairHeight ≤ Interpreter.ordering.depth) (equalsIn room v w)
      (same v w)
  | .list xs, .list ys => by
    rw [equalsIn, same, height_list, pairHeight]
    split
    · exact equalItemsIn_within room xs ys ‹_›
    · rename_i hlength
      rw [Bool.eq_false_iff.2 (mt length_eq_of_sameItems hlength)]
      exact .ok _ _
  | .object ms, .object ns => by
    rw [equalsIn, same, height_object, pairHeight]
    split
    · rename_i hnames
      rw [hnames, Bool.true_and]
      exact equalMembersIn_within room ms ns
    · rename_i hnames
      rw [Bool.eq_false_iff.2 hnames, Bool.false_and]
      exact .ok _ _
  | .pair v w, .pair v' w' => by
    rw [equalsIn, ties, same, ← alike, pairHeight]
    exact (alikeIn_within _ _ _).mono And.right
  | .scalar _, _ | .set _, _ => .ok _ _
  | .list _, .scalar _ | .list _, .object _ | .list _, .set _ | .list _, .pair .. => .ok _ _
  | .object _, .scalar _ | .object _, .list _ | .object _, .set _ | .object _, .pair .. => .ok _ _
  | .pair .., .scalar _ | .pair .., .list _ | .pair .., .object _ | .pair .., .set _ => .ok _ _

theorem equalItemsIn_within (room : Nat) : ∀ xs ys : List Value, xs.length = ys.length →
    Within (itemsLevels 1 xs + 1 ≤ room ∧ itemsPairHeight xs ≤ Interpreter.ordering.depth)
      (equalItemsIn room xs ys) (sameItems xs ys)
  | [], [], _ => .ok _ _
  | [], _ :: _, h | _ :: _, [], h => nomatch h
  | x :: xs, y :: ys, h => by
    rw [itemsLevels_cons, itemsPairHeight, sameItems]
    cases room with
    | zero =>
      rw [equalItemsIn]
      exact .error _ fun h => Nat.not_succ_le_zero _ h.1
    | succ deeper =>
      rw [equalItemsIn]
      refine ((equalsIn_within deeper x y).and_then fun _ =>
        equalItemsIn_within (deeper + 1) xs ys (Nat.succ.inj h)).mono ?_
      intro h
      omega

theorem equalMembersIn_within (room : Nat) : ∀ ms ns : List (Scalar × Value),
    Within (membersLevels 1 ms + 1 ≤ room ∧ membersPairHeight ms ≤ Interpreter.ordering.depth)
      (equalMembersIn room ms ns) (sameMembers ms ns)
  | [], _ => by
    rw [equalMembersIn]
    exact .ok _ _
  | (name, v) :: ms, ns => by
    rw [membersLevels_cons, membersPairHeight, sameMembers]
    cases hmember : memberOf? ns name with
    | none =>
      simp only [equalMembersIn, hmember]
      exact .ok _ _
    | some w =>
      cases room with
      | zero =>
        simp only [equalMembersIn, hmember]
        exact .error _ fun h => Nat.not_succ_le_zero _ h.1
      | succ deeper =>
        simp only [equalMembersIn, hmember]
        refine ((equalsIn_within deeper v w).and_then fun _ =>
          equalMembersIn_within (deeper + 1) ms ns).mono ?_
        intro h
        omega

end

variable {v w : Value} {b : Bool}

/-- Whatever a comparison answers is right. -/
theorem eq_same_of_equals (h : v.equals w = .ok b) : b = v.same w :=
  (equalsIn_within _ v w).eq_of_ok h

/-- A comparison answers if one of the values does not nest too deep. -/
theorem equals_eq_ok (hdeep : v.height ≤ Interpreter.comparing.depth)
    (hpairs : v.pairHeight ≤ Interpreter.ordering.depth) : v.equals w = .ok (v.same w) :=
  (equalsIn_within _ v w).eq_ok ⟨hdeep, hpairs⟩

/-- What stands inside more lists than a comparison can go into is not compared. -/
theorem equalsIn_wrapped (v w : Value) {room n : Nat} (h : room < n) :
    equalsIn room (v.wrapped n) (w.wrapped n) = .error Interpreter.comparing.fault := by
  have hdown (room : Nat) (x y : Value) : equalsIn room (.list [x]) (.list [y]) =
      equalItemsIn room [x] [y] := by
    rw [equalsIn]
    exact if_pos rfl
  induction n generalizing room with
  | zero => exact absurd h (Nat.not_lt_zero room)
  | succ n ih =>
    refine (hdown room _ _).trans ?_
    cases room with
    | zero => rw [equalItemsIn]
    | succ deeper =>
      rw [equalItemsIn, ih (Nat.lt_of_succ_lt_succ h)]
      rfl

/-- What stands inside too many lists is not even compared with itself. -/
theorem equals_wrapped (v w : Value) {n : Nat} (h : Interpreter.comparing.depth < n) :
    (v.wrapped n).equals (w.wrapped n) = .error Interpreter.comparing.fault :=
  equalsIn_wrapped v w h

end Value

end MessageRouting
