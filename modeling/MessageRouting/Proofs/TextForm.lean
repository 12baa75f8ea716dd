import MessageRouting.Proofs.JsonRoundTrip
import MessageRouting.Proofs.Literals
import MessageRouting.Proofs.Outcomes
import MessageRouting.Proofs.StoredNumbers

/-!
# What the text of a value tells

The text that conditions look into, if there is one, loses nothing of a value that JSON can express,
unless the value is a text: a reader that opens enough containers inside each other finds the value
in it (`Value.read_asText`), and so no two such values have the same text (`Value.asText_exact`). A
reader never finds more containers inside each other than it opens (`Json.levels_le_of_read`), and
what nests deeper than the interpreter writes has no text (`Value.asText_tooDeep`).
-/

namespace MessageRouting

/-! ## Doubles -/

namespace Binary64

/-- There are two infinite doubles. -/
theorem eq_infinity {x : Binary64} (h : x.isInfinite = true) : x = infinity x.isNegative := by
  have hlt : x.bits.toNat < 2 ^ 64 := x.bits.toNat_lt
  rw [isInfinite, Bool.and_eq_true, decide_eq_true_eq, decide_eq_true_eq] at h
  obtain ⟨hexponent, hfraction⟩ := h
  have hbits : x.bits.toNat = 2047 * Nat.pow 2 52 + if x.isNegative then Nat.pow 2 63 else 0 := by
    simp only [exponentField, fraction, isNegative, Nat.pow_eq, Nat.reducePow, ge_iff_le,
      decide_eq_true_eq] at *
    split <;> omega
  calc x = ⟨UInt64.ofNat x.bits.toNat⟩ := by rw [UInt64.ofNat_toNat]
    _ = infinity x.isNegative := by rw [hbits]; rfl

end Binary64

namespace Json

open Reader

/-- Whether a double is what its digits stand for. All readers read them alike. -/
def readsBack (x : Binary64) : Bool :=
  match number .strict (floats.render x) with
  | .ok (.float y, _) => x = y
  | _ => true

variable (d : Dialect)

theorem spells_nan : Spells d "NaN".toList (.float .nan) :=
  ⟨⟨'N', _, rfl, by decide⟩, fun _ _ => rfl⟩

theorem spells_infinity (negative : Bool) :
    Spells d (floats.render (.infinity negative)) (.float (.infinity negative)) := by
  cases negative
  · exact ⟨⟨'I', _, rfl, by decide⟩, fun _ _ => rfl⟩
  · exact ⟨⟨'-', _, rfl, by decide⟩, fun _ _ => rfl⟩

/-- The text of a double stands for it, if its digits do and if it is no other NaN than the one. -/
theorem spells_float {x : Binary64} (hback : readsBack x = true)
    (hnan : x.isNaN = true → x = .nan) : Spells d (floats.render x) (.float x) := by
  by_cases hfinite : x.isFinite = true
  · obtain ⟨y, hy⟩ := Decimal.Layout.exists_number_render (f := floats) rfl hfinite
    rw [readsBack, hy, decide_eq_true_eq] at hback
    exact spells_of_number (hback ▸ hy d)
  · by_cases hx : x.isNaN = true
    · rw [hnan hx]
      exact spells_nan d
    · have hinfinite : x.isInfinite = true := by
        simp only [Binary64.isFinite, Binary64.isNaN, Binary64.isInfinite, Bool.and_eq_true,
          decide_eq_true_eq, not_and, not_not] at *
        exact ⟨hfinite, hx hfinite⟩
      rw [Binary64.eq_infinity hinfinite]
      exact spells_infinity d _

end Json

/-! ## Values that JSON can express -/

namespace Scalar

/-- Whether the text of a scalar loses nothing: an integer has few enough digits, a double is what
its digits stand for, there is one NaN, texts are made of characters, and there are no dates and
bytes. -/
def isLossless : Scalar → Bool
  | int n => (Decimal.digits n.natAbs).length ≤ Fault.maxDigits
  | float x => Json.readsBack x && (!x.isNaN || x = .nan)
  | moment _ | bytes _ | broken _ => false
  | _ => true

/-- The text that a name is, if it is one. -/
def asName : Scalar → String
  | text s => s
  | _ => ""

end Scalar

/-- Whether the text of a value loses nothing: its names are texts, none of them twice in an object,
and the texts of its scalars lose nothing. -/
def Value.isLossless (v : Value) : Bool :=
  v.consists Scalar.isText Scalar.isLossless && v.unambiguous

namespace Json

open Reader

variable [Interpreter]

/-- Compact JSON stands for what is written, for readers that do not count signs. -/
theorem restores_compact {d : Dialect} (hsign : d.countsSign = false) :
    compact.Restores d Scalar.isText Scalar.isLossless Scalar.asName id where
  separator := rfl
  colon := ⟨[], (rfl : ":".toList = [':']), fun _ hc => nomatch hc⟩
  quote := rfl
  label s hs := by
    cases s with
    | text s => rfl
    | _ => cases hs
  scalar s hs := by
    cases s with
    | null => exact ⟨_, rfl, reads_of_spells spells_null⟩
    | bool b => exact ⟨_, rfl, reads_of_spells (spells_bool b)⟩
    | int n =>
      have hlength := of_decide_eq_true hs
      have htakes : Takes d n := by
        rw [Takes, integerLength, hsign, Bool.and_false]
        exact hlength
      exact ⟨_, if_pos hlength, reads_of_spells (spells_integer htakes)⟩
    | float x =>
      rw [Scalar.isLossless, Bool.and_eq_true, Bool.or_eq_true, decide_eq_true_eq] at hs
      obtain ⟨hback, hnan⟩ := hs
      have hspells : Spells d (floats.render x) (.float x) :=
        spells_float d hback fun hx => hnan.resolve_left (by simp [hx])
      exact ⟨_, rfl, reads_of_spells hspells⟩
    | text s => exact ⟨_, rfl, reads_text d s⟩
    | moment | bytes | broken => cases hs

end Json

namespace Value

variable {v w : Value}

theorem restored_of_isLossless (h : v.isLossless = true) : v.restored Scalar.asName id = v := by
  rw [isLossless, Bool.and_eq_true] at h
  refine restored_eq_self (fun s hs => ?_) (fun _ _ => rfl) v h.1 h.2
  cases s with
  | text s => rfl
  | _ => cases hs

variable [Interpreter]

theorem asText_of_isLossless (h : v.isLossless = true) (htext : ∀ s, v ≠ .text s) :
    v.asText = Json.compact.write v := by
  unfold asText
  split
  · rename_i s
    exact absurd rfl (htext s)
  · cases h
  · rfl

/-- What has a text does not nest too deep. -/
theorem height_le_of_asText {cs : List Char} (h : v.asText = .ok cs) :
    v.height ≤ Interpreter.writing.depth :=
  (isRenderable_iff.1 (v.writtenIf_asText.iff_of_ok h)).2

/-- **The text of a value is read back as the value** by any reader that opens enough containers
inside each other. -/
theorem read_asText (h : v.isLossless = true) (htext : ∀ s, v ≠ .text s)
    (hdeep : v.height ≤ Interpreter.writing.depth) {d : Json.Dialect}
    (hsign : d.countsSign = false) (hd : v.levels d.bareLevels ≤ d.maxDepth) :
    ∃ cs, v.asText = .ok cs ∧ d.read cs = .ok v := by
  have hkind : v.consists Scalar.isText Scalar.isLossless = true := (Bool.and_eq_true_iff.1 h).1
  have hwritten := (Json.restores_compact hsign).read_write hkind hdeep hd
  rwa [restored_of_isLossless h, ← asText_of_isLossless h htext] at hwritten

/-- Values with the same text are the same. -/
theorem eq_of_asText (hv : v.isLossless = true) (hvtext : ∀ s, v ≠ .text s)
    (hw : w.isLossless = true) (hwtext : ∀ s, w ≠ .text s) {cs : List Char}
    (hcs : v.asText = .ok cs) (hcs' : w.asText = .ok cs) : v = w := by
  -- one reader that opens enough containers for both
  let d : Json.Dialect := ⟨max v.height w.height, 1, false, false⟩
  obtain ⟨s, hs, hread⟩ := read_asText hv hvtext (height_le_of_asText hcs) (d := d) rfl
    (Nat.le_max_left _ _)
  obtain ⟨t, ht, hread'⟩ := read_asText hw hwtext (height_le_of_asText hcs') (d := d) rfl
    (Nat.le_max_right _ _)
  obtain rfl : s = cs := Except.ok.inj (hs.symm.trans hcs)
  obtain rfl : t = s := Except.ok.inj (ht.symm.trans hcs')
  rw [hread'] at hread
  exact (Except.ok.inj hread).symm

end Value

/-! ## What is read -/

namespace Value

theorem membersLevels_setMember_le {bare n : Nat} {found : List (Scalar × Value)} {name : Scalar}
    {v : Value} (hfound : membersLevels bare found ≤ n) (hv : v.levels bare ≤ n) :
    membersLevels bare (setMember found name v) ≤ n := by
  rw [membersLevels_le_iff] at hfound ⊢
  intro m hm
  unfold setMember at hm
  split at hm
  · obtain ⟨x, hx, rfl⟩ := List.mem_map.1 hm
    split
    · exact hv
    · exact hfound x hx
  · rcases List.mem_append.1 hm with hm | hm
    · exact hfound m hm
    · rw [List.mem_singleton.1 hm]
      exact hv

theorem setMember_ne_nil (found : List (Scalar × Value)) (name : Scalar) (v : Value) :
    setMember found name v ≠ [] := by
  unfold setMember
  split
  · rename_i hany
    rintro hnil
    rw [List.map_eq_nil_iff.1 hnil] at hany
    cases hany
  · exact List.append_ne_nil_of_right_ne_nil _ (List.cons_ne_nil _ _)

end Value

namespace Json

namespace Reader

/-- What a part of the reader finds, if anything, has a property. -/
def Finds {α : Type} (p : α → Prop) : Result α → Prop
  | .ok (a, _) => p a
  | .error _ => True

theorem Finds.map {α β : Type} {p : α → Prop} {q : β → Prop} {r : Result α} (h : Finds p r)
    (g : α → β) (hg : ∀ a, p a → q (g a)) : Finds q (r.map fun x => (g x.1, x.2)) := by
  cases r with
  | ok x => exact hg x.1 h
  | error e => trivial

theorem finds_true {α : Type} (r : Result α) : Finds (fun _ => True) r := by
  cases r <;> trivial

/-- Values, items and members, read with some fuel, take no more levels than can be entered. Where
items or members are read there is at least one. -/
structure Bounded (f : Dialect) (fuel : Nat) : Prop where
  /-- A value. -/
  value : ∀ depth cs, Finds (fun v => v.levels f.bareLevels ≤ depth) (value f fuel depth cs)
  /-- Items. -/
  items : ∀ depth cs, Finds (fun vs => vs ≠ [] ∧ Value.itemsLevels f.bareLevels vs ≤ depth)
    (items f fuel depth cs)
  /-- Members, if those that have been found take no more. -/
  members : ∀ depth found cs, Value.membersLevels f.bareLevels found ≤ depth →
    Finds (fun ms => ms ≠ [] ∧ Value.membersLevels f.bareLevels ms ≤ depth)
      (members f fuel depth found cs)

/-- What is not empty takes one level. -/
theorem levelsTaken_of_ne {f : Dialect} {closing : Char} {rest : List Char}
    (h : (skip rest).head? ≠ some closing) : levelsTaken f closing rest = 1 :=
  if_neg h

namespace Bounded

variable {f : Dialect} {fuel : Nat}

theorem value_succ (h : Bounded f fuel) (depth : Nat) (cs : List Char) :
    Finds (fun v => v.levels f.bareLevels ≤ depth) (Reader.value f (fuel + 1) depth cs) := by
  have hscalar : ∀ s : Scalar, (Value.scalar s).levels f.bareLevels ≤ depth := fun s => by
    rw [Value.levels]
    exact Nat.zero_le depth
  rw [Reader.value.eq_def]
  dsimp only
  -- a text, a list, an object, and a word or a number
  split
  · exact (finds_true _).map (fun s => Value.scalar (Scalar.ofCodes s)) fun _ _ => hscalar _
  · split
    · trivial
    · rename_i rest hroom
      split
      · rename_i hempty
        rw [levelsTaken, hempty] at hroom
        exact Nat.not_lt.1 hroom
      · rename_i hopen
        have hone : levelsTaken f ']' rest = 1 := levelsTaken_of_ne fun hhead => by
          obtain ⟨tail, htail⟩ := List.head?_eq_some_iff.1 hhead
          exact hopen tail htail
        rw [hone] at hroom
        refine (h.items _ _).map Value.list ?_
        rintro vs ⟨hne, hvs⟩
        rw [Value.levels, if_neg (by simpa using hne)]
        omega
  · split
    · trivial
    · rename_i rest hroom
      split
      · rename_i hempty
        rw [levelsTaken, hempty] at hroom
        exact Nat.not_lt.1 hroom
      · rename_i hopen
        have hone : levelsTaken f '\x7d' rest = 1 := levelsTaken_of_ne fun hhead => by
          obtain ⟨tail, htail⟩ := List.head?_eq_some_iff.1 hhead
          exact hopen tail htail
        rw [hone] at hroom
        refine (h.members _ _ _ (Nat.zero_le _)).map Value.object ?_
        rintro ms ⟨hne, hms⟩
        rw [Value.levels, if_neg (by simpa using hne)]
        omega
  · exact (finds_true _).map Value.scalar fun s _ => hscalar s

theorem items_succ (h : Bounded f fuel) (depth : Nat) (cs : List Char) :
    Finds (fun vs => vs ≠ [] ∧ Value.itemsLevels f.bareLevels vs ≤ depth)
      (Reader.items f (fuel + 1) depth cs) := by
  have hvalue := h.value depth cs
  rw [Reader.items]
  split
  · trivial
  · rename_i v rest hv
    rw [hv] at hvalue
    have hlevels : v.levels f.bareLevels ≤ depth := hvalue
    split
    · exact ⟨List.cons_ne_nil _ _, Value.itemsLevels_le_iff.2 (by simpa using hlevels)⟩
    · refine (h.items _ _).map (v :: ·) fun vs hvs => ⟨List.cons_ne_nil _ _, ?_⟩
      rw [Value.itemsLevels]
      exact Nat.max_le.2 ⟨hlevels, hvs.2⟩
    · trivial

theorem members_succ (h : Bounded f fuel) (depth : Nat) (found : List (Scalar × Value))
    (cs : List Char) (hfound : Value.membersLevels f.bareLevels found ≤ depth) :
    Finds (fun ms => ms ≠ [] ∧ Value.membersLevels f.bareLevels ms ≤ depth)
      (Reader.members f (fuel + 1) depth found cs) := by
  rw [Reader.members.eq_def]
  dsimp only
  split
  · split
    · trivial
    · split
      · trivial
      · rename_i name _ _ _ after _
        have hvalue := h.value depth (skip after)
        split
        · trivial
        · rename_i v rest hv
          rw [hv] at hvalue
          -- the member is found, and whatever stands behind it goes on from there
          have hset : Value.membersLevels f.bareLevels
              (Value.setMember found (Scalar.ofCodes name) v) ≤ depth :=
            Value.membersLevels_setMember_le hfound hvalue
          split
          · exact ⟨Value.setMember_ne_nil _ _ _, hset⟩
          · exact h.members _ _ _ hset
          · trivial
  · trivial

end Bounded

theorem bounded (f : Dialect) (fuel : Nat) : Bounded f fuel := by
  induction fuel with
  | zero => exact ⟨fun _ _ => trivial, fun _ _ => trivial, fun _ _ _ _ => trivial⟩
  | succ fuel ih => exact ⟨ih.value_succ, ih.items_succ, ih.members_succ⟩

end Reader

/-- **A reader finds no more containers inside each other than it opens.** -/
theorem levels_le_of_read {d : Dialect} {cs : List Char} {v : Value} (h : d.read cs = .ok v) :
    v.levels d.bareLevels ≤ d.maxDepth := by
  unfold Dialect.read at h
  split at h
  · cases h
  · have hvalue := (Reader.bounded d (cs.length + 1)).value d.maxDepth (Reader.skip cs)
    split at h
    · cases h
    · rename_i w rest hw
      rw [hw] at hvalue
      split at h
      · obtain rfl := Except.ok.inj h
        exact hvalue
      · cases h

end Json

/-! ## The text of a value -/

namespace Value

/-- **The text of a value that JSON can express loses nothing**, unless the value is a text. If the
value has no more containers inside each other than are written, and than are opened where rule
files and messages are read, it has a text, and what is read there is the value; and no other such
value, however deep, has the same text. -/
theorem asText_exact [Interpreter] {v : Value} (hv : v.isLossless = true)
    (htext : ∀ s, v ≠ .text s) :
    (v.height ≤ Interpreter.writing.depth → v.height ≤ Interpreter.readDepth →
      ∃ cs, v.asText = .ok cs ∧ Json.Dialect.open.read cs = .ok v) ∧
    ∀ w cs, w.isLossless = true → (∀ s, w ≠ .text s) → v.asText = .ok cs → w.asText = .ok cs →
      v = w :=
  ⟨fun hdeep hread => read_asText hv htext hdeep rfl hread,
    fun _ _ hw hwtext => eq_of_asText hv htext hw hwtext⟩

/-- A value with scalars of all kinds, one of them to be chosen. -/
def mixed (s : Scalar) : Value :=
  .object [(.text "one", .list [.int 1, .scalar s, .bool true, .null]), (.text "", .object []),
    (.text "\"\\\n\x01é😀", .list [.list [], .text "1"]),
    (.text "limits", .list [.float ⟨0x8000000000000000⟩, .float ⟨0x3FB999999999999A⟩, .float .nan,
      .float (.infinity true), .int (-12345678901234567890)])]

/-- A rule file without rules, and with lists inside each other in a member that means nothing. -/
def buried (n : Nat) : Value :=
  .object [(.text "rules", .list []), (.text "note", (list []).wrapped n)]

theorem isLossless_buried (n : Nat) : (buried n).isLossless = true := by
  simp [isLossless, buried, consists, membersConsist, itemsConsist, unambiguous,
    membersUnambiguous, itemsUnambiguous, Scalar.isText, consists_wrapped, unambiguous_wrapped]

theorem lt_height_buried (n : Nat) : n < (buried n).height := by
  rw [buried, height_object, membersLevels_cons, membersLevels_cons, height_wrapped]
  omega

section

open scoped Interpreter.Usual

/-- The double 1.0 keeps its kind: its text is not that of the integer 1. -/
theorem asText_exact_mixed :
    let double := mixed (.float ⟨0x3FF0000000000000⟩)
    let whole := mixed (.int 1)
    double.isLossless = true ∧ whole.isLossless = true ∧ (∀ s, double ≠ .text s) ∧
      (∀ s, whole ≠ .text s) ∧ double.height ≤ Interpreter.writing.depth ∧
      double.height ≤ Interpreter.readDepth ∧
      ∃ cs, double.asText = .ok cs ∧ Json.Dialect.open.read cs = .ok double ∧
        whole.asText ≠ .ok cs := by
  have hdouble : (mixed (.float ⟨0x3FF0000000000000⟩)).isLossless = true := by decide +kernel
  have hwhole : (mixed (.int 1)).isLossless = true := by decide +kernel
  have htext : ∀ n s, mixed n ≠ .text s := fun n s h => by cases h
  have hwritten : (mixed (.float ⟨0x3FF0000000000000⟩)).height ≤ Interpreter.writing.depth := by
    decide +kernel
  have hread : (mixed (.float ⟨0x3FF0000000000000⟩)).height ≤ Interpreter.readDepth := by
    decide +kernel
  obtain ⟨hback, hother⟩ := asText_exact hdouble (htext _)
  obtain ⟨cs, hcs, hback⟩ := hback hwritten hread
  refine ⟨hdouble, hwhole, htext _, htext _, hwritten, hread, cs, hcs, hback, fun hsame => ?_⟩
  have heq : mixed (.float ⟨0x3FF0000000000000⟩) = mixed (.int 1) :=
    hother _ cs hwhole (htext _) hcs hsame
  simp [mixed] at heq

/-- A value that nests too deep has no text, and there is none in which it is found. -/
theorem asText_tooDeep : (buried 2000).isLossless = true ∧ (∀ s, buried 2000 ≠ .text s) ∧
    (∀ cs, (buried 2000).asText ≠ .ok cs) ∧
    ∀ cs, Json.Dialect.open.read cs ≠ .ok (buried 2000) := by
  have hlt := lt_height_buried 2000
  refine ⟨isLossless_buried 2000, fun s h => (nomatch h), fun cs hcs => ?_, fun cs hread => ?_⟩
  · have hle : (buried 2000).height ≤ 980 := height_le_of_asText hcs
    omega
  · have hle : (buried 2000).height ≤ 980 := Json.levels_le_of_read hread
    omega

end

end Value

end MessageRouting
