import MessageRouting.Condition.Evaluation

/-!
# Values that JSON can express

The names in such a value are texts, there are no dates, bytes, sets and pairs, and its integers are
short enough to be written. Every one of them that does not nest too deep has a text
(`asText_of_isJson`), and what a path names in one is one again (`isJson_lookup?`) and no deeper
(`height_lookup?`).
-/

namespace MessageRouting

namespace Scalar

/-- Whether a scalar is a text of characters. -/
def isText : Scalar → Bool
  | text _ => true
  | _ => false

/-- Whether a scalar is a text, of characters or not. -/
def isTextual : Scalar → Bool
  | text _ | broken _ => true
  | _ => false

/-- Whether JSON has a scalar, with few enough digits. -/
def isJson : Scalar → Bool
  | int n => (Decimal.digits n.natAbs).length ≤ Fault.maxDigits
  | moment _ | bytes _ => false
  | _ => true

end Scalar

namespace Value

mutual

/-- Whether a value is made of lists and objects, all names and all scalars being of some kind. -/
def consists (name scalar : Scalar → Bool) : Value → Bool
  | .scalar s => scalar s
  | .list xs => itemsConsist name scalar xs
  | .object ms => membersConsist name scalar ms
  | .set _ => false
  | .pair .. => false

/-- Whether all names and all scalars in some items are of some kind. -/
def itemsConsist (name scalar : Scalar → Bool) : List Value → Bool
  | [] => true
  | v :: vs => consists name scalar v && itemsConsist name scalar vs

/-- Whether all names and all scalars in some members are of some kind. -/
def membersConsist (name scalar : Scalar → Bool) : List (Scalar × Value) → Bool
  | [] => true
  | (n, v) :: ms => name n && consists name scalar v && membersConsist name scalar ms

end

/-- Whether JSON can express a value. -/
def isJson (v : Value) : Bool := v.consists Scalar.isTextual Scalar.isJson

variable {name scalar name' scalar' : Scalar → Bool}

theorem membersConsist_iff {ms : List (Scalar × Value)} :
    membersConsist name scalar ms = true ↔
      ∀ m ∈ ms, name m.1 = true ∧ m.2.consists name scalar = true := by
  induction ms with
  | nil => simp [membersConsist]
  | cons m ms ih => simp [membersConsist, ih]

mutual

/-- A value of one kind is of a wider one. -/
theorem consists_mono (hname : ∀ s, name s = true → name' s = true)
    (hscalar : ∀ s, scalar s = true → scalar' s = true) :
    ∀ v : Value, v.consists name scalar = true → v.consists name' scalar' = true
  | .scalar s, h => by
    rw [consists] at h ⊢
    exact hscalar s h
  | .list xs, h => by
    rw [consists] at h ⊢
    exact itemsConsist_mono hname hscalar xs h
  | .object ms, h => by
    rw [consists] at h ⊢
    exact membersConsist_mono hname hscalar ms h
  | .set _, h => by
    rw [consists] at h
    cases h
  | .pair _ _, h => by
    rw [consists] at h
    cases h

theorem itemsConsist_mono (hname : ∀ s, name s = true → name' s = true)
    (hscalar : ∀ s, scalar s = true → scalar' s = true) :
    ∀ xs : List Value, itemsConsist name scalar xs = true → itemsConsist name' scalar' xs = true
  | [], _ => by rw [itemsConsist]
  | v :: vs, h => by
    rw [itemsConsist, Bool.and_eq_true] at h ⊢
    exact ⟨consists_mono hname hscalar v h.1, itemsConsist_mono hname hscalar vs h.2⟩

theorem membersConsist_mono (hname : ∀ s, name s = true → name' s = true)
    (hscalar : ∀ s, scalar s = true → scalar' s = true) :
    ∀ ms : List (Scalar × Value), membersConsist name scalar ms = true →
      membersConsist name' scalar' ms = true
  | [], _ => by rw [membersConsist]
  | (n, v) :: ms, h => by
    rw [membersConsist, Bool.and_eq_true, Bool.and_eq_true] at h ⊢
    exact ⟨⟨hname n h.1.1, consists_mono hname hscalar v h.1.2⟩,
      membersConsist_mono hname hscalar ms h.2⟩

end

/-! ## Parts of values -/

theorem consists_memberOf? {ms : List (Scalar × Value)} {n : Scalar} {v : Value}
    (h : membersConsist name scalar ms = true) (hv : memberOf? ms n = some v) :
    v.consists name scalar = true := by
  rw [memberOf?, Option.map_eq_some_iff] at hv
  obtain ⟨m, hm, rfl⟩ := hv
  exact (membersConsist_iff.1 h m (List.mem_of_find?_eq_some hm)).2

theorem consists_get? {v w : Value} {s : String} (h : v.consists name scalar = true)
    (hw : v.get? s = some w) : w.consists name scalar = true := by
  cases v with
  | object ms =>
    rw [consists] at h
    exact consists_memberOf? h hw
  | _ => cases hw

/-- What stands at the end of a way down is of the same kind. -/
theorem consists_descend {v w : Value} {names : List String} (h : v.consists name scalar = true)
    (hw : v.descend names = some w) : w.consists name scalar = true := by
  induction names generalizing v with
  | nil =>
    obtain rfl : v = w := Option.some.inj hw
    exact h
  | cons s names ih =>
    rw [descend_cons, Option.bind_eq_some_iff] at hw
    obtain ⟨u, hu, hw⟩ := hw
    exact ih (consists_get? h hu) hw

theorem isJson_lookup? {v w : Value} {path : String} (h : v.isJson = true)
    (hw : v.lookup? path = some w) : w.isJson = true := by
  unfold lookup? at hw
  split at hw
  · cases hw
  · exact consists_descend h hw

theorem height_memberOf? {ms : List (Scalar × Value)} {n : Scalar} {v : Value}
    (h : memberOf? ms n = some v) : v.height ≤ membersLevels 1 ms := by
  rw [memberOf?, Option.map_eq_some_iff] at h
  obtain ⟨m, hm, rfl⟩ := h
  have hmem := List.mem_of_find?_eq_some hm
  clear hm
  induction ms with
  | nil => cases hmem
  | cons head ms ih =>
    rw [membersLevels]
    rcases List.mem_cons.1 hmem with rfl | hmem
    · exact Nat.le_max_left _ _
    · exact Nat.le_trans (ih hmem) (Nat.le_max_right _ _)

theorem height_get? {v w : Value} {s : String} (hw : v.get? s = some w) : w.height ≤ v.height := by
  cases v with
  | object ms =>
    rw [height_object]
    exact Nat.le_succ_of_le (height_memberOf? hw)
  | _ => cases hw

theorem height_lookup? {v w : Value} {path : String} (hw : v.lookup? path = some w) :
    w.height ≤ v.height := by
  have hdescend : ∀ (names : List String) (v : Value), v.descend names = some w →
      w.height ≤ v.height := by
    intro names
    induction names with
    | nil =>
      intro v hv
      obtain rfl : v = w := Option.some.inj hv
      exact Nat.le_refl _
    | cons s names ih =>
      intro v hv
      rw [descend_cons, Option.bind_eq_some_iff] at hv
      obtain ⟨u, hu, hv⟩ := hv
      exact Nat.le_trans (ih u hv) (height_get? hu)
  unfold lookup? at hw
  split at hw
  · cases hw
  · exact hdescend _ _ hw

/-! ## Lists around a value -/

/-- A value inside some lists. -/
def wrapped (v : Value) : Nat → Value
  | 0 => v
  | n + 1 => .list [wrapped v n]

theorem height_wrapped (v : Value) (n : Nat) : (v.wrapped n).height = v.height + n := by
  induction n with
  | zero => rfl
  | succ n ih =>
    rw [wrapped, height_list, itemsLevels_cons, ih, itemsLevels, Nat.max_zero, Nat.add_assoc]

theorem consists_wrapped (v : Value) (n : Nat) :
    (v.wrapped n).consists name scalar = v.consists name scalar := by
  induction n with
  | zero => rfl
  | succ n ih => rw [wrapped, consists, itemsConsist, itemsConsist, ih, Bool.and_true]

end Value

/-! ## Texts of values -/

namespace Json

/-- A style that can write all scalars of a kind, and use those of another kind as names. -/
structure Style.Writes (f : Style) (name scalar : Scalar → Bool) : Prop where
  /-- Names can be written. -/
  label : ∀ s, name s = true → ∃ cs, f.label s = .ok cs
  /-- Scalars can be written. -/
  scalar : ∀ s, scalar s = true → ∃ cs, f.scalar s = .ok cs

namespace Style

variable {name scalar : Scalar → Bool} {f : Style}

theorem enter_of_lt {depth : Nat} (h : depth < f.deepest) : f.enter depth = .ok () := if_pos h

mutual

/-- A value can be written at a depth if its names and its scalars can, and it does not go below the
deepest place. -/
theorem Writes.value (hf : f.Writes name scalar) (depth : Nat) :
    ∀ v : Value, v.consists name scalar = true → depth + v.height ≤ f.deepest →
      ∃ cs, f.writeAt depth v = .ok cs
  | .scalar s, h, _ => by
    rw [Value.consists] at h
    exact hf.scalar s h
  | .list xs, h, hdeep => by
    rw [Value.consists] at h
    rw [Value.height_list] at hdeep
    obtain ⟨items, hitems⟩ := hf.items (depth + 1) xs h (by omega)
    exact ⟨_, by rw [writeAt, enter_of_lt (by omega), hitems]; rfl⟩
  | .object ms, h, hdeep => by
    rw [Value.consists] at h
    rw [Value.height_object] at hdeep
    obtain ⟨items, hitems⟩ := hf.members (depth + 1) ms h (by omega)
    exact ⟨_, by rw [writeAt, enter_of_lt (by omega), hitems]; rfl⟩
  | .set _, h, _ => by
    rw [Value.consists] at h
    cases h
  | .pair _ _, h, _ => by
    rw [Value.consists] at h
    cases h

theorem Writes.items (hf : f.Writes name scalar) (depth : Nat) :
    ∀ xs : List Value, Value.itemsConsist name scalar xs = true →
      depth + Value.itemsLevels 1 xs ≤ f.deepest → ∃ items, f.writeItems depth xs = .ok items
  | [], _, _ => ⟨[], by rw [writeItems]⟩
  | v :: vs, h, hdeep => by
    rw [Value.itemsConsist, Bool.and_eq_true] at h
    rw [Value.itemsLevels_cons] at hdeep
    obtain ⟨head, hhead⟩ := hf.value depth v h.1 (by omega)
    obtain ⟨rest, hrest⟩ := hf.items depth vs h.2 (by omega)
    exact ⟨head :: rest, by rw [writeItems, hhead, hrest]; rfl⟩

theorem Writes.members (hf : f.Writes name scalar) (depth : Nat) :
    ∀ ms : List (Scalar × Value), Value.membersConsist name scalar ms = true →
      depth + Value.membersLevels 1 ms ≤ f.deepest → ∃ items, f.writeMembers depth ms = .ok items
  | [], _, _ => ⟨[], by rw [writeMembers]⟩
  | (n, v) :: ms, h, hdeep => by
    rw [Value.membersConsist, Bool.and_eq_true, Bool.and_eq_true] at h
    rw [Value.membersLevels_cons] at hdeep
    obtain ⟨label, hlabel⟩ := hf.label n h.1.1
    obtain ⟨body, hbody⟩ := hf.value depth v h.1.2 (by omega)
    obtain ⟨rest, hrest⟩ := hf.members depth ms h.2 (by omega)
    refine ⟨(f.quote label ++ f.colon.toList ++ body) :: rest, ?_⟩
    rw [writeMembers, hlabel]
    simp only [bind, Except.bind, hbody, hrest]
    rfl

end

end Style

theorem exists_label {s : Scalar} (h : s.isTextual = true) : ∃ cs, label s = .ok cs := by
  cases s with
  | text s => exact ⟨s.toList, rfl⟩
  | broken codes => exact ⟨Scalar.shownCodes codes, rfl⟩
  | _ => cases h

theorem exists_scalar (quote : List Char → List Char) {s : Scalar} (h : s.isJson = true) :
    ∃ cs, scalar quote s = .ok cs := by
  cases s with
  | int n => exact ⟨_, if_pos (of_decide_eq_true h)⟩
  | moment m => cases h
  | bytes data => cases h
  | _ => exact ⟨_, rfl⟩

theorem writes_compact [Interpreter] : compact.Writes Scalar.isTextual Scalar.isJson :=
  ⟨fun _ => exists_label, fun _ => exists_scalar _⟩

end Json

/-- **Every value that JSON can express has a text** if it does not nest too deep. -/
theorem Value.asText_of_isJson [Interpreter] {v : Value} (h : v.isJson = true)
    (hdeep : v.height ≤ Interpreter.writing.depth) : ∃ cs, v.asText = .ok cs := by
  unfold Value.asText
  split
  · exact ⟨_, rfl⟩
  · exact ⟨_, rfl⟩
  · refine Json.writes_compact.value 0 v h ?_
    rw [Nat.zero_add]
    exact hdeep

end MessageRouting
