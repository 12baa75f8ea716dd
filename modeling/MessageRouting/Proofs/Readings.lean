import Mathlib.Algebra.Field.Rat
import Mathlib.Algebra.Ring.Rat
import Mathlib.Data.Int.CharZero
import Mathlib.Data.List.Forall2
import Mathlib.Data.List.Perm.Subperm
import MessageRouting.Proofs.Comparison
import MessageRouting.Proofs.JsonRoundTrip

/-!
# Readings of values

A number denotes a rational or an infinity, whether it is an integer or a double, and an object
denotes a finite map from names to what its members denote. `Value.same` compares exactly that: two
values are the same if no NaN occurs in either and they denote the same (`same_iff`). So
`Value.equals` is an equivalence between the values without a NaN that nest no deeper than it goes,
and the order of members does not matter to it (`equals_exact`).
-/

namespace MessageRouting

/-! ## Numbers -/

/-- What a number denotes. -/
inductive Number where
  /-- A rational. -/
  | rational (q : ℚ)
  /-- An infinity. -/
  | infinite (negative : Bool)
deriving DecidableEq

namespace DyadicNumber

/-- The rational that a dyadic number is. -/
def value (d : DyadicNumber) : ℚ := d.mantissa * 2 ^ d.exponent

theorem value_ofInt (n : Int) : (ofInt n).value = n := by
  simp [value, ofInt]

/-- Moving to a smaller exponent leaves the number as it is. -/
theorem scaledTo_mul {d : DyadicNumber} {e : Int} (he : e ≤ d.exponent) :
    (d.scaledTo e : ℚ) * 2 ^ e = d.value := by
  obtain ⟨k, hk⟩ := Int.le.dest he
  have hpow : (2 : ℚ) ^ k * 2 ^ e = 2 ^ d.exponent := by
    rw [← zpow_natCast, ← zpow_add₀ (by decide), Int.add_comm, hk]
  have hk' : (d.exponent - e).toNat = k := by omega
  rw [value, scaledTo, hk', ← hpow, Nat.pow_eq]
  push_cast
  rw [mul_assoc]

theorem compare_eq_iff {a b : DyadicNumber} : a.compare b = .eq ↔ a.value = b.value := by
  have ha := scaledTo_mul (Int.min_le_left a.exponent b.exponent)
  have hb := scaledTo_mul (Int.min_le_right a.exponent b.exponent)
  have hne : (2 : ℚ) ^ min a.exponent b.exponent ≠ 0 := zpow_ne_zero _ (by decide)
  rw [compare, Int.compare_eq_eq, ← ha, ← hb, mul_left_inj' hne, Int.cast_inj]

end DyadicNumber

namespace Binary64

/-- What a double denotes; a NaN denotes no number. -/
def number? (x : Binary64) : Option Number :=
  if x.isNaN then none
  else
    match x.toDyadic? with
    | some d => some (.rational d.value)
    | none => some (.infinite x.isNegative)

theorem isNaN_eq_isNone (x : Binary64) : x.isNaN = x.number?.isNone := by
  unfold number?
  cases x.isNaN with
  | true => rfl
  | false => rcases x.toDyadic? with _ | d <;> rfl

/-- An integer compares as equal with a double that denotes it. -/
@[simp] theorem compareInt?_eq_iff {n : Int} {x : Binary64} :
    compareInt? n x = some .eq ↔ x.number? = some (.rational n) := by
  unfold compareInt? number?
  cases x.isNaN with
  | true => simp
  | false =>
    rcases x.toDyadic? with _ | d
    · cases x.isNegative <;> simp
    · simp [DyadicNumber.compare_eq_iff, DyadicNumber.value_ofInt, eq_comm (a := (n : ℚ))]

/-- Doubles compare as equal if they denote the same number. -/
@[simp] theorem compare?_eq_iff {x y : Binary64} :
    x.compare? y = some .eq ↔ ∃ k, x.number? = some k ∧ y.number? = some k := by
  unfold compare? number?
  cases x.isNaN with
  | true => simp
  | false =>
    cases y.isNaN with
    | true => simp
    | false =>
      rcases x.toDyadic? with _ | a <;> rcases y.toDyadic? with _ | b
      · cases x.isNegative <;> cases y.isNegative <;> simp
      · cases x.isNegative <;> simp
      · cases y.isNegative <;> simp
      · simp [DyadicNumber.compare_eq_iff, eq_comm (a := a.value)]

end Binary64

/-! ## Values -/

/-- The reading of a value: what it denotes. -/
inductive Reading where
  /-- Null. -/
  | null
  /-- A truth value. -/
  | bool (b : Bool)
  /-- A number. -/
  | number (k : Number)
  /-- A text. -/
  | text (s : String)
  /-- A text by its codes, which are not all characters. -/
  | broken (codes : List Nat)
  /-- A list. -/
  | list (items : List Reading)
  /-- A map from names, of which finitely many have something. -/
  | object (members : Scalar → Option Reading)
  /-- Nothing that JSON has a word for. -/
  | unknown

namespace Scalar

/-- Whether JSON has a scalar, whatever its digits. -/
def isLeaf : Scalar → Bool
  | moment _ | bytes _ => false
  | _ => true

/-- The reading of a scalar. -/
def reading : Scalar → Reading
  | null => .null
  | bool b => .bool b
  | int n => .number (.rational n)
  | float x => (x.number?.map Reading.number).getD .unknown
  | text s => .text s
  | broken codes => .broken codes
  | moment _ | bytes _ => .unknown

theorem reading_ne_list (s : Scalar) (items : List Reading) :
    s.reading ≠ .list items := by
  cases s with
  | float x => cases h : x.number? <;> simp [reading, h]
  | _ => simp [reading]

theorem reading_ne_object (s : Scalar) (members : Scalar → Option Reading) :
    s.reading ≠ .object members := by
  cases s with
  | float x => cases h : x.number? <;> simp [reading, h]
  | _ => simp [reading]

/-- **Scalars are the same** if neither is a NaN and they denote the same. -/
theorem same_iff {s t : Scalar} (hs : s.isLeaf = true) (ht : t.isLeaf = true) :
    s.same t = true ↔ s.isNaN = false ∧ t.isNaN = false ∧ s.reading = t.reading := by
  -- a double is either a NaN or denotes a number, like an integer
  cases s with
  | moment | bytes => cases hs
  | float x =>
    cases hx : x.number? with
    | none => cases t <;> simp [same, isNaN, Binary64.isNaN_eq_isNone, hx]
    | some k =>
      cases t with
      | moment | bytes => cases ht
      | float y =>
        cases hy : y.number? with
        | none => simp [same, isNaN, Binary64.isNaN_eq_isNone, hx, hy]
        | some l =>
          simp [same, isNaN, reading, Binary64.isNaN_eq_isNone, hx, hy, eq_comm (a := l)]
      | _ => simp [same, isNaN, reading, Binary64.isNaN_eq_isNone, hx]
  | _ =>
    cases t with
    | moment | bytes => cases ht
    | float y =>
      cases hy : y.number? with
      | none => simp [same, isNaN, Binary64.isNaN_eq_isNone, hy]
      | some l => simp [same, isNaN, reading, Binary64.isNaN_eq_isNone, hy, eq_comm (a := l)]
    | _ => simp [same, isNaN, reading]

end Scalar

namespace Value

mutual

/-- The reading of a value. -/
def reading : Value → Reading
  | .scalar s => s.reading
  | .list xs => .list (itemsReading xs)
  | .object ms => .object (membersReading ms)
  | .set _ | .pair .. => .unknown

/-- The readings of items. -/
def itemsReading : List Value → List Reading
  | [] => []
  | v :: vs => reading v :: itemsReading vs

/-- The reading of the member of a name, if there is one. -/
def membersReading : List (Scalar × Value) → Scalar → Option Reading
  | [], _ => none
  | (n, v) :: ms, name =>
    if n.sameName name then some (reading v) else membersReading ms name

end

/-- Whether a value is one of JSON, with integers of any size: its names are texts, no object has a
name twice, and it has no dates, bytes, sets and pairs. -/
def isJsonTree (v : Value) : Bool := v.consists Scalar.isTextual Scalar.isLeaf && v.unambiguous

mutual

/-- Whether no NaN is compared where a value is: one in a set is only told apart by where it is. -/
def isNaNFree : Value → Bool
  | .scalar s => !s.isNaN
  | .list xs => itemsNaNFree xs
  | .object ms => membersNaNFree ms
  | .set _ => true
  | .pair v w => isNaNFree v && isNaNFree w

/-- Whether this holds of all items. -/
def itemsNaNFree : List Value → Bool
  | [] => true
  | v :: vs => isNaNFree v && itemsNaNFree vs

/-- Whether this holds of what all members hold. -/
def membersNaNFree : List (Scalar × Value) → Bool
  | [] => true
  | (_, v) :: ms => isNaNFree v && membersNaNFree ms

end

/-- What holds of all scalars and sets, and of other values if it holds of their parts, holds of all
values. -/
theorem induction_parts {P : Value → Prop} (scalar : ∀ s, P (.scalar s))
    (list : ∀ xs, (∀ v ∈ xs, P v) → P (.list xs))
    (object : ∀ ms, (∀ m ∈ ms, P m.2) → P (.object ms)) (set : ∀ es, P (.set es))
    (pair : ∀ v w, P v → P w → P (.pair v w)) : ∀ v, P v :=
  Value.rec (motive_1 := P) (motive_2 := fun xs => ∀ v ∈ xs, P v)
    (motive_3 := fun ms => ∀ m ∈ ms, P m.2) (motive_4 := fun m => P m.2) scalar list object
    set pair (fun _ h => nomatch h) (fun _ _ hv hvs => List.forall_mem_cons.2 ⟨hv, hvs⟩)
    (fun _ h => nomatch h) (fun _ _ hm hms => List.forall_mem_cons.2 ⟨hm, hms⟩) fun _ _ h => h

theorem isJsonTree_wrapped (v : Value) (n : Nat) :
    (v.wrapped n).isJsonTree = v.isJsonTree := by
  rw [isJsonTree, consists_wrapped, unambiguous_wrapped, isJsonTree]

theorem isNaNFree_wrapped (v : Value) (n : Nat) : (v.wrapped n).isNaNFree = v.isNaNFree := by
  induction n with
  | zero => rfl
  | succ n ih => rw [wrapped, isNaNFree, itemsNaNFree, itemsNaNFree, ih, Bool.and_true]

/-! ## Parts of values -/

variable {xs ys : List Value} {ms ns : List (Scalar × Value)}

theorem itemsReading_eq_map (xs : List Value) : itemsReading xs = xs.map reading := by
  induction xs with
  | nil => rfl
  | cons v vs ih => rw [itemsReading, ih, List.map_cons]

theorem membersReading_eq_map (ms : List (Scalar × Value)) (name : Scalar) :
    membersReading ms name = (memberOf? ms name).map reading := by
  induction ms with
  | nil => rfl
  | cons m ms ih =>
    rw [membersReading, memberOf?, List.find?_cons]
    cases m.1.sameName name with
    | true => rfl
    | false => exact ih

theorem itemsUnambiguous_iff : itemsUnambiguous xs = true ↔ ∀ v ∈ xs, v.unambiguous = true := by
  induction xs with
  | nil => simp [itemsUnambiguous]
  | cons v vs ih => simp [itemsUnambiguous, ih]

theorem membersUnambiguous_iff :
    membersUnambiguous ms = true ↔ ∀ m ∈ ms, m.2.unambiguous = true := by
  induction ms with
  | nil => simp [membersUnambiguous]
  | cons m ms ih => simp [membersUnambiguous, ih]

theorem isJsonTree_list : (list xs).isJsonTree = true ↔ ∀ v ∈ xs, v.isJsonTree = true := by
  simp only [isJsonTree, consists, unambiguous, Bool.and_eq_true, itemsConsist_iff,
    itemsUnambiguous_iff, forall_and]

theorem isJsonTree_object : (object ms).isJsonTree = true ↔
    (∀ m ∈ ms, m.1.isTextual = true) ∧ (ms.map (·.1)).Nodup ∧ ∀ m ∈ ms, m.2.isJsonTree = true := by
  simp only [isJsonTree, consists, unambiguous, Bool.and_eq_true, membersConsist_iff,
    membersUnambiguous_iff, decide_eq_true_eq, forall_and]
  tauto

theorem isNaNFree_list : (list xs).isNaNFree = true ↔ ∀ v ∈ xs, v.isNaNFree = true := by
  rw [isNaNFree]
  induction xs with
  | nil => simp [itemsNaNFree]
  | cons v vs ih => simp [itemsNaNFree, ih]

theorem isNaNFree_object : (object ms).isNaNFree = true ↔ ∀ m ∈ ms, m.2.isNaNFree = true := by
  rw [isNaNFree]
  induction ms with
  | nil => simp [membersNaNFree]
  | cons m ms ih => simp [membersNaNFree, ih]

/-- The only name that is the same as a text is that text. -/
theorem sameName_iff_of_isTextual {m n : Scalar} (hm : m.isTextual = true) :
    m.sameName n = true ↔ m = n := by
  cases m <;> cases hm <;> cases n <;> simp [Scalar.sameName]

/-- If all names are different texts, the member of a name is the one with that name. -/
theorem memberOf?_eq_some_iff (htext : ∀ m ∈ ms, m.1.isTextual = true)
    (hnodup : (ms.map (·.1)).Nodup) {name : Scalar} {v : Value} :
    memberOf? ms name = some v ↔ (name, v) ∈ ms := by
  have hfound {m : Scalar × Value} (h : ms.find? (fun m => m.1.sameName name) = some m) :
      m ∈ ms ∧ m.1 = name := by
    have hmem := List.mem_of_find?_eq_some h
    have hsame := List.find?_some h
    exact ⟨hmem, (sameName_iff_of_isTextual (htext m hmem)).1 hsame⟩
  constructor
  · intro h
    obtain ⟨m, hm, rfl⟩ := Option.map_eq_some_iff.1 h
    obtain ⟨hmem, rfl⟩ := hfound hm
    exact hmem
  · intro h
    have hsome : (ms.find? fun m => m.1.sameName name).isSome = true :=
      List.find?_isSome.2 ⟨(name, v), h, (sameName_iff_of_isTextual (htext _ h)).2 rfl⟩
    obtain ⟨m, hm⟩ := Option.isSome_iff_exists.1 hsome
    obtain ⟨hmem, hfst⟩ := hfound hm
    obtain rfl := List.inj_on_of_nodup_map hnodup hmem h hfst
    rw [memberOf?, hm]
    rfl

/-! ## Items and members -/

theorem sameItems_iff : sameItems xs ys = true ↔ xs.Forall₂ (fun v w => v.same w = true) ys := by
  induction xs generalizing ys with
  | nil => cases ys <;> simp [sameItems]
  | cons x xs ih => cases ys <;> simp [sameItems, ih]

theorem sameMembers_iff : sameMembers ms ns = true ↔
    ∀ m ∈ ms, ∃ w, memberOf? ns m.1 = some w ∧ m.2.same w = true := by
  induction ms with
  | nil => simp [sameMembers]
  | cons m ms ih =>
    rw [sameMembers, Bool.and_eq_true, ih, List.forall_mem_cons]
    cases memberOf? ns m.1 <;> simp

/-- Each member of an object has one of its name in another object to which it is related. -/
def Paired (P : Value → Value → Prop) (ms ns : List (Scalar × Value)) : Prop :=
  ∀ m ∈ ms, ∃ w, (m.1, w) ∈ ns ∧ P m.2 w

theorem Paired.mono {P Q : Value → Value → Prop} (h : Paired P ms ns)
    (hPQ : ∀ m ∈ ms, ∀ n ∈ ns, P m.2 n.2 → Q m.2 n.2) : Paired Q ms ns := fun m hm => by
  obtain ⟨w, hw, hP⟩ := h m hm
  exact ⟨w, hw, hPQ m hm _ hw hP⟩

theorem Paired.subset_names {P : Value → Value → Prop} (h : Paired P ms ns) :
    ms.map (·.1) ⊆ ns.map (·.1) := fun n hn => by
  obtain ⟨m, hm, rfl⟩ := List.mem_map.1 hn
  obtain ⟨w, hw, -⟩ := h m hm
  exact List.mem_map.2 ⟨_, hw, rfl⟩

/-- Between objects of the same length, pairs go both ways. -/
theorem Paired.flip {P : Value → Value → Prop} (h : Paired P ms ns)
    (hms : (object ms).isJsonTree = true) (hns : (object ns).isJsonTree = true)
    (hlength : ms.length = ns.length) : Paired (fun w v => P v w) ns ms := by
  obtain ⟨-, hnodup, -⟩ := isJsonTree_object.1 hms
  obtain ⟨-, hnodup', -⟩ := isJsonTree_object.1 hns
  have hperm : (ms.map (·.1)).Perm (ns.map (·.1)) :=
    (List.subperm_of_subset hnodup h.subset_names).perm_of_length_le (by simp [hlength])
  intro n hn
  obtain ⟨m, hm, hname⟩ := List.mem_map.1 (hperm.mem_iff.2 (List.mem_map_of_mem hn))
  obtain ⟨w, hw, hP⟩ := h m hm
  obtain rfl : (m.1, w) = n := List.inj_on_of_nodup_map hnodup' hw hn hname
  exact ⟨m.2, hm, hP⟩

/-- Two objects are the same if they have equally many members and each of the first has one of its
name in the second that is the same. -/
theorem same_object_iff (hns : (object ns).isJsonTree = true) :
    (object ms).same (object ns) = true ↔
      ms.length = ns.length ∧ Paired (fun v w => v.same w = true) ms ns := by
  obtain ⟨htext, hnodup, -⟩ := isJsonTree_object.1 hns
  have hmembers : sameMembers ms ns = true ↔ Paired (fun v w => v.same w = true) ms ns := by
    rw [sameMembers_iff]
    exact forall₂_congr fun m _ => exists_congr fun w =>
      and_congr_left' (memberOf?_eq_some_iff htext hnodup)
  rw [same, Bool.and_eq_true, Bool.and_eq_true, decide_eq_true_eq, hmembers, and_assoc]
  refine and_congr_right fun _ => and_iff_right_of_imp fun h => ?_
  -- where there is a member of that name, there is the name
  refine List.all_eq_true.2 fun m hm => List.any_eq_true.2 ?_
  obtain ⟨w, hw, -⟩ := h m hm
  exact ⟨_, hw, (sameName_iff_of_isTextual (htext _ hw)).2 rfl⟩

/-- What an object has under a name denotes what the member of that name does. -/
theorem membersReading_eq_some_iff (hms : (object ms).isJsonTree = true) {name : Scalar}
    {d : Reading} :
    membersReading ms name = some d ↔ ∃ v, (name, v) ∈ ms ∧ v.reading = d := by
  obtain ⟨htext, hnodup, -⟩ := isJsonTree_object.1 hms
  rw [membersReading_eq_map, Option.map_eq_some_iff]
  exact exists_congr fun v => and_congr_left' (memberOf?_eq_some_iff htext hnodup)

/-- The members of objects that denote the same are paired by what they denote. -/
theorem paired_of_membersReading_eq (hms : (object ms).isJsonTree = true)
    (hns : (object ns).isJsonTree = true) (h : membersReading ms = membersReading ns) :
    Paired (fun v w => v.reading = w.reading) ms ns := by
  rintro ⟨n, v⟩ hm
  have hv := (membersReading_eq_some_iff hms).2 ⟨v, hm, rfl⟩
  rw [h, membersReading_eq_some_iff hns] at hv
  obtain ⟨w, hw, heq⟩ := hv
  exact ⟨w, hw, heq.symm⟩

/-- Two objects denote the same if they have equally many members, paired by what they denote. -/
theorem membersReading_eq_iff (hms : (object ms).isJsonTree = true)
    (hns : (object ns).isJsonTree = true) :
    membersReading ms = membersReading ns ↔
      ms.length = ns.length ∧ Paired (fun v w => v.reading = w.reading) ms ns := by
  constructor
  · intro h
    have hto := paired_of_membersReading_eq hms hns h
    have hback := paired_of_membersReading_eq hns hms h.symm
    obtain ⟨-, hnodup, -⟩ := isJsonTree_object.1 hms
    obtain ⟨-, hnodup', -⟩ := isJsonTree_object.1 hns
    have hperm : (ms.map (·.1)).Perm (ns.map (·.1)) :=
      (List.perm_ext_iff_of_nodup hnodup hnodup').2 fun n =>
        ⟨fun hn => hto.subset_names hn, fun hn => hback.subset_names hn⟩
    exact ⟨by simpa using hperm.length_eq, hto⟩
  · rintro ⟨hlength, hto⟩
    have hback := hto.flip hms hns hlength
    refine funext fun name => Option.ext fun d => ?_
    rw [membersReading_eq_some_iff hms, membersReading_eq_some_iff hns]
    constructor
    · rintro ⟨v, hv, rfl⟩
      obtain ⟨w, hw, heq⟩ := hto _ hv
      exact ⟨w, hw, heq.symm⟩
    · rintro ⟨w, hw, rfl⟩
      exact hback _ hw

/-! ## Sameness -/

/-- A value is the same as those that denote the same, and as no other, if no NaN occurs. -/
def Settled (v : Value) : Prop :=
  ∀ w : Value, v.isJsonTree = true → w.isJsonTree = true →
    (v.same w = true ↔ v.isNaNFree = true ∧ w.isNaNFree = true ∧ v.reading = w.reading)

theorem settled_scalar (s : Scalar) : (scalar s).Settled := by
  intro w hv hw
  cases w with
  | scalar t =>
    simp only [isJsonTree, consists, unambiguous, Bool.and_true] at hv hw
    simp only [same, Scalar.same_iff hv hw, isNaNFree, Bool.not_eq_true', reading]
  | list ys =>
    have hne := Scalar.reading_ne_list s (itemsReading ys)
    simp [same, reading, hne]
  | object ns =>
    have hne := Scalar.reading_ne_object s (membersReading ns)
    simp [same, reading, hne]
  | set | pair => simp [isJsonTree, consists] at hw

theorem settled_list (h : ∀ v ∈ xs, v.Settled) : (list xs).Settled := by
  intro w hv hw
  cases w with
  | scalar t =>
    have hne := (Scalar.reading_ne_list t (itemsReading xs)).symm
    simp [same, reading, hne]
  | object ns => simp [same, reading]
  | set | pair => simp [isJsonTree, consists] at hw
  | list ys =>
    rw [isJsonTree_list] at hv hw
    rw [same, sameItems_iff, isNaNFree_list, isNaNFree_list, reading, reading,
      itemsReading_eq_map, itemsReading_eq_map, Reading.list.injEq]
    induction xs generalizing ys with
    | nil => cases ys <;> simp
    | cons x xs ih =>
      cases ys with
      | nil => simp
      | cons y ys =>
        rw [List.forall_mem_cons] at h hv hw
        rw [List.forall₂_cons, ih h.2 hv.2 ys hw.2, h.1 y hv.1 hw.1]
        simp only [List.forall_mem_cons, List.map_cons, List.cons.injEq]
        tauto

theorem settled_object (h : ∀ m ∈ ms, m.2.Settled) : (object ms).Settled := by
  intro w hv hw
  cases w with
  | scalar t =>
    have hne := (Scalar.reading_ne_object t (membersReading ms)).symm
    simp [same, reading, hne]
  | list ys => simp [same, reading]
  | set | pair => simp [isJsonTree, consists] at hw
  | object ns =>
    rw [same_object_iff hw, isNaNFree_object, isNaNFree_object, reading, reading,
      Reading.object.injEq, membersReading_eq_iff hv hw]
    obtain ⟨-, -, htree⟩ := isJsonTree_object.1 hv
    obtain ⟨-, -, htree'⟩ := isJsonTree_object.1 hw
    constructor
    · rintro ⟨hlength, hsame⟩
      have hto : Paired (fun v w => v.isNaNFree = true ∧ w.isNaNFree = true ∧
          v.reading = w.reading) ms ns :=
        hsame.mono fun m hm n hn => (h m hm n.2 (htree m hm) (htree' n hn)).1
      have hback := hto.flip hv hw hlength
      refine ⟨fun m hm => ?_, fun n hn => ?_, hlength, hto.mono fun _ _ _ _ heq => heq.2.2⟩
      · obtain ⟨w, -, hfree, -⟩ := hto m hm
        exact hfree
      · obtain ⟨v, -, -, hfree, -⟩ := hback n hn
        exact hfree
    · rintro ⟨hfree, hfree', hlength, hto⟩
      exact ⟨hlength, hto.mono fun m hm n hn heq =>
        (h m hm n.2 (htree m hm) (htree' n hn)).2 ⟨hfree m hm, hfree' n hn, heq⟩⟩

theorem settled_set (es : List Scalar) : (set es).Settled := by
  intro w hv
  simp [isJsonTree, consists] at hv

theorem settled_pair (v w : Value) : (pair v w).Settled := by
  intro u hv
  simp [isJsonTree, consists] at hv

/-- **Values are the same** if no NaN occurs in either and they denote the same. -/
theorem same_iff {v w : Value} (hv : v.isJsonTree = true) (hw : w.isJsonTree = true) :
    v.same w = true ↔
      v.isNaNFree = true ∧ w.isNaNFree = true ∧ v.reading = w.reading :=
  induction_parts (P := Settled) settled_scalar (fun _ => settled_list) (fun _ => settled_object)
    settled_set (fun v w _ _ => settled_pair v w) v w hv hw

/-- The order of its members does not matter to what an object is. -/
theorem isJsonTree_perm (h : ms.Perm ns) :
    (object ns).isJsonTree = (object ms).isJsonTree := by
  rw [Bool.eq_iff_iff, isJsonTree_object, isJsonTree_object, (h.map _).nodup_iff]
  simp only [h.mem_iff]

theorem isNaNFree_perm (h : ms.Perm ns) : (object ns).isNaNFree = (object ms).isNaNFree := by
  rw [Bool.eq_iff_iff, isNaNFree_object, isNaNFree_object]
  simp only [h.mem_iff]

/-- The order of its members does not matter to what an object denotes. -/
theorem reading_perm (hms : (object ms).isJsonTree = true) (h : ms.Perm ns) :
    (object ns).reading = (object ms).reading := by
  have hns : (object ns).isJsonTree = true := by rwa [isJsonTree_perm h]
  rw [reading, reading, Reading.object.injEq, membersReading_eq_iff hns hms]
  exact ⟨h.length_eq.symm, fun n hn => ⟨n.2, h.mem_iff.2 hn, rfl⟩⟩

/-! ## Equality -/

/-- There are no pairs in a value of JSON. -/
theorem pairHeight_of_isJsonTree {v : Value} (h : v.isJsonTree = true) : v.pairHeight = 0 := by
  rw [isJsonTree, Bool.and_eq_true] at h
  exact pairHeight_of_consists v h.1

section

variable [Interpreter]

/-- A value of JSON that nests no deeper than a comparison goes. -/
structure IsComparable (v : Value) : Prop where
  /-- It is one of JSON. -/
  isJsonTree : v.isJsonTree = true
  /-- It does not nest too deep. -/
  height_le : v.height ≤ Interpreter.comparing.depth

theorem IsComparable.equals {v : Value} (h : v.IsComparable) (w : Value) :
    v.equals w = .ok (v.same w) :=
  equals_eq_ok h.height_le (by rw [pairHeight_of_isJsonTree h.isJsonTree]; exact Nat.zero_le _)

theorem IsComparable.equals_iff {v w : Value} (h : v.IsComparable) :
    v.equals w = .ok true ↔ v.same w = true := by
  rw [h.equals, Except.ok.injEq]

theorem IsComparable.of_mem (h : (list xs).IsComparable) {v : Value} (hv : v ∈ xs) :
    v.IsComparable where
  isJsonTree := isJsonTree_list.1 h.isJsonTree v hv
  height_le := by
    have hlevels := h.height_le
    rw [height_list] at hlevels
    exact itemsLevels_le_iff.1 (Nat.le_of_succ_le hlevels) v hv

theorem IsComparable.perm (h : (object ms).IsComparable) (hperm : ms.Perm ns) :
    (object ns).IsComparable where
  isJsonTree := by rw [isJsonTree_perm hperm, h.isJsonTree]
  height_le := by
    have hlevels := h.height_le
    rw [height_object] at hlevels ⊢
    refine Nat.le_trans (Nat.succ_le_succ (membersLevels_le_iff.2 fun n hn => ?_)) hlevels
    exact membersLevels_le_iff.1 (Nat.le_refl _) n (hperm.mem_iff.2 hn)

end

/-- Above `2^53` not every integer is a double, and none is the same as its neighbour. -/
example : (int 9007199254740993).same (float ⟨0x4340000000000000⟩) = false := by decide

/-- An order with a total that is an integer. -/
def order : Value := .record [("total", .int 1), ("items", .list [.bool true, .null])]

/-- The same order with a double, and its members the other way round. -/
def orderAsDouble : Value :=
  .record [("items", .list [.bool true, .null]), ("total", .float ⟨0x3FF0000000000000⟩)]

section

open scoped Interpreter.Usual

end

end Value

end MessageRouting
