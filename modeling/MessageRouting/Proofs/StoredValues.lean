import MessageRouting.Proofs.JsonRefusals
import MessageRouting.Proofs.Outcomes
import MessageRouting.Proofs.StoredNumbers

/-!
# The stored form of values

Sets and pairs are stored as lists, so a value is stored like the one with lists in place of them
(`Value.listed`, `Json.Style.writeAt_listed`). It is stored if it does not nest too deep and none of
its texts and names has a code point that is no character (`Json.Style.Only.value`), and it comes
back as `Store.Codec.restored` says: with the texts of its dates, bytes and names, and null for a
number that JSON does not have.
-/

namespace MessageRouting

open Schema Store

/-! ## Lists for sets and pairs -/

namespace Value

mutual

/-- A value with lists in place of sets and pairs. -/
def listed : Value → Value
  | .scalar s => .scalar s
  | .list xs => .list (itemsListed xs)
  | .object ms => .object (membersListed ms)
  | .set es => .list (es.map .scalar)
  | .pair v w => .list [listed v, listed w]

/-- Items with lists in place of sets and pairs. -/
def itemsListed : List Value → List Value
  | [] => []
  | v :: vs => listed v :: itemsListed vs

/-- Members with lists in place of sets and pairs. -/
def membersListed : List (Scalar × Value) → List (Scalar × Value)
  | [] => []
  | (name, v) :: ms => (name, listed v) :: membersListed ms

end

theorem itemsListed_eq_map (xs : List Value) : itemsListed xs = xs.map listed := by
  induction xs with
  | nil => rfl
  | cons v vs ih => rw [itemsListed, ih, List.map_cons]

theorem membersListed_eq_map (ms : List (Scalar × Value)) :
    membersListed ms = ms.map fun m => (m.1, m.2.listed) := by
  induction ms with
  | nil => rfl
  | cons m ms ih => rw [membersListed, ih, List.map_cons]

mutual

/-- A value without sets and pairs stays as it is. -/
theorem listed_eq_self {name scalar : Scalar → Bool} :
    ∀ v : Value, v.consists name scalar = true → v.listed = v
  | .scalar _, _ => by rw [listed]
  | .list xs, h => by
    rw [consists] at h
    rw [listed, itemsListed_eq_self xs h]
  | .object ms, h => by
    rw [consists] at h
    rw [listed, membersListed_eq_self ms h]
  | .set _, h => by
    rw [consists] at h
    cases h
  | .pair _ _, h => by
    rw [consists] at h
    cases h

theorem itemsListed_eq_self {name scalar : Scalar → Bool} :
    ∀ xs : List Value, itemsConsist name scalar xs = true → itemsListed xs = xs
  | [], _ => by rw [itemsListed]
  | v :: vs, h => by
    rw [itemsConsist, Bool.and_eq_true] at h
    rw [itemsListed, listed_eq_self v h.1, itemsListed_eq_self vs h.2]

theorem membersListed_eq_self {name scalar : Scalar → Bool} :
    ∀ ms : List (Scalar × Value), membersConsist name scalar ms = true → membersListed ms = ms
  | [], _ => by rw [membersListed]
  | (n, v) :: ms, h => by
    rw [membersConsist, Bool.and_eq_true, Bool.and_eq_true] at h
    rw [membersListed, listed_eq_self v h.1.2, membersListed_eq_self ms h.2]

end

theorem itemsLevels_scalars (bare : Nat) (es : List Scalar) :
    itemsLevels bare (es.map .scalar) = 0 := by
  induction es with
  | nil => rfl
  | cons e es ih => rw [List.map_cons, itemsLevels, levels, ih, Nat.max_self]

mutual

/-- Lists in place of sets and pairs stand as deep. -/
theorem levels_listed (bare : Nat) : ∀ v : Value, v.listed.levels bare = v.levels bare
  | .scalar _ => by rw [listed]
  | .list xs => by
    rw [listed, levels, levels, itemsListed_eq_map, List.isEmpty_map, ← itemsListed_eq_map,
      itemsLevels_listed bare xs]
  | .object ms => by
    rw [listed, levels, levels, membersListed_eq_map, List.isEmpty_map, ← membersListed_eq_map,
      membersLevels_listed bare ms]
  | .set es => by
    rw [listed, levels, levels, List.isEmpty_map, itemsLevels_scalars]
  | .pair v w => by
    rw [listed, levels, levels, itemsLevels, itemsLevels, itemsLevels, levels_listed bare v,
      levels_listed bare w, Nat.max_zero]
    rfl

theorem itemsLevels_listed (bare : Nat) :
    ∀ xs : List Value, itemsLevels bare (itemsListed xs) = itemsLevels bare xs
  | [] => by rw [itemsListed]
  | v :: vs => by
    rw [itemsListed, itemsLevels, itemsLevels, levels_listed bare v, itemsLevels_listed bare vs]

theorem membersLevels_listed (bare : Nat) :
    ∀ ms : List (Scalar × Value), membersLevels bare (membersListed ms) = membersLevels bare ms
  | [] => by rw [membersListed]
  | (_, v) :: ms => by
    rw [membersListed, membersLevels, membersLevels, levels_listed bare v,
      membersLevels_listed bare ms]

end

mutual

/-- Empty containers make a difference of one level at most. -/
theorem height_le_levels (bare : Nat) : ∀ v : Value, v.height ≤ v.levels bare + 1
  | .scalar _ => Nat.zero_le _
  | .list xs => by
    have hitems := itemsLevels_le_levels bare xs
    rw [height_list, levels]
    cases xs with
    | nil => exact Nat.le_add_left 1 _
    | cons v vs => exact Nat.succ_le_succ hitems
  | .object ms => by
    have hmembers := membersLevels_le_levels bare ms
    rw [height_object, levels]
    cases ms with
    | nil => exact Nat.le_add_left 1 _
    | cons m ms => exact Nat.succ_le_succ hmembers
  | .set es => by
    rw [height, levels, ite_self]
    exact Nat.le_add_left 1 _
  | .pair v w => by
    have hv := height_le_levels bare v
    have hw := height_le_levels bare w
    rw [height_pair, levels]
    omega

theorem itemsLevels_le_levels (bare : Nat) :
    ∀ xs : List Value, itemsLevels 1 xs ≤ itemsLevels bare xs + 1
  | [] => Nat.zero_le _
  | v :: vs => by
    have hv := height_le_levels bare v
    have hvs := itemsLevels_le_levels bare vs
    rw [itemsLevels_cons, itemsLevels]
    omega

theorem membersLevels_le_levels (bare : Nat) :
    ∀ ms : List (Scalar × Value), membersLevels 1 ms ≤ membersLevels bare ms + 1
  | [] => Nat.zero_le _
  | (n, v) :: ms => by
    have hv := height_le_levels bare v
    have hms := membersLevels_le_levels bare ms
    rw [membersLevels_cons, membersLevels]
    omega

end

end Value

namespace Json.Style

variable {f : Style}

theorem writeItems_scalars (f : Style) (depth : Nat) (es : List Scalar) :
    f.writeItems depth (es.map .scalar) = es.mapM f.scalar := by
  induction es with
  | nil => rfl
  | cons e es ih =>
    rw [List.map_cons, writeItems, writeAt, ih, List.mapM_cons]

mutual

/-- A style without a text for sets writes lists in place of sets and pairs. -/
theorem writeAt_listed (hset : f.setText = none) (depth : Nat) :
    ∀ v : Value, f.writeAt depth v.listed = f.writeAt depth v
  | .scalar _ => by rw [Value.listed]
  | .list xs => by
    rw [Value.listed, writeAt, writeAt, writeItems_listed hset (depth + 1) xs]
  | .object ms => by
    rw [Value.listed, writeAt, writeAt, writeMembers_listed hset (depth + 1) ms]
  | .set es => by
    rw [Value.listed, writeAt, writeAt, writeItems_scalars, writeSet, hset]
  | .pair v w => by
    rw [Value.listed, writeAt, writeAt, writeItems, writeItems, writeItems,
      writeAt_listed hset (depth + 1) v, writeAt_listed hset (depth + 1) w]
    simp only [bind_assoc]
    rfl

theorem writeItems_listed (hset : f.setText = none) (depth : Nat) :
    ∀ xs : List Value, f.writeItems depth (Value.itemsListed xs) = f.writeItems depth xs
  | [] => by rw [Value.itemsListed]
  | v :: vs => by
    rw [Value.itemsListed, writeItems, writeItems, writeAt_listed hset depth v,
      writeItems_listed hset depth vs]

theorem writeMembers_listed (hset : f.setText = none) (depth : Nat) :
    ∀ ms : List (Scalar × Value),
      f.writeMembers depth (Value.membersListed ms) = f.writeMembers depth ms
  | [] => by rw [Value.membersListed]
  | (_, v) :: ms => by
    rw [Value.membersListed, writeMembers, writeMembers, writeAt_listed hset depth v,
      writeMembers_listed hset depth ms]

end

/-- A style that writes only names and scalars of some kind. -/
structure Only (f : Style) (name scalar : Scalar → Bool) : Prop where
  /-- A name that is written is of that kind. -/
  label : ∀ s cs, f.label s = .ok cs → name s = true
  /-- A scalar that is written is of that kind. -/
  scalar : ∀ s cs, f.scalar s = .ok cs → scalar s = true

theorem lt_of_enter {depth : Nat} (h : f.enter depth = .ok ()) : depth < f.deepest := by
  unfold enter at h
  split at h
  · assumption
  · cases h

variable {name scalar : Scalar → Bool}

mutual

/-- A value that is written, and has no sets and pairs, has only such names and scalars, and does
not go below the deepest place. -/
theorem Only.value (hf : f.Only name scalar) (depth : Nat) (hdepth : depth ≤ f.deepest) :
    ∀ (v : Value) (cs : List Char), f.writeAt depth v.listed = .ok cs →
      v.listed.consists name scalar = true ∧ depth + v.height ≤ f.deepest
  | .scalar s, cs, h => by
    rw [Value.listed, writeAt] at h
    rw [Value.listed, Value.consists]
    exact ⟨hf.scalar s cs h, hdepth⟩
  | .list xs, cs, h => by
    rw [Value.listed, writeAt] at h
    obtain ⟨_, henter, h⟩ := bind_eq_ok.1 h
    obtain ⟨texts, htexts, -⟩ := bind_eq_ok.1 h
    have hlt := lt_of_enter henter
    obtain ⟨hall, hdeep⟩ := hf.items (depth + 1) hlt xs texts htexts
    rw [Value.listed, Value.consists, Value.height_list]
    exact ⟨hall, by omega⟩
  | .object ms, cs, h => by
    rw [Value.listed, writeAt] at h
    obtain ⟨_, henter, h⟩ := bind_eq_ok.1 h
    obtain ⟨texts, htexts, -⟩ := bind_eq_ok.1 h
    have hlt := lt_of_enter henter
    obtain ⟨hall, hdeep⟩ := hf.members (depth + 1) hlt ms texts htexts
    rw [Value.listed, Value.consists, Value.height_object]
    exact ⟨hall, by omega⟩
  | .set es, cs, h => by
    rw [Value.listed, writeAt, writeItems_scalars] at h
    obtain ⟨_, henter, h⟩ := bind_eq_ok.1 h
    obtain ⟨texts, htexts, -⟩ := bind_eq_ok.1 h
    have hlt := lt_of_enter henter
    rw [Value.listed, Value.consists, Value.itemsConsist_iff]
    refine ⟨fun v hv => ?_, ?_⟩
    · obtain ⟨e, he, rfl⟩ := List.mem_map.1 hv
      obtain ⟨text, -, htext⟩ := exists_of_mapM_eq_ok htexts e he
      rw [Value.consists]
      exact hf.scalar e text htext
    · have hheight : (Value.set es).height = 1 := by
        rw [Value.height, Value.levels, ite_self]
      omega
  | .pair v w, cs, h => by
    rw [Value.listed, writeAt] at h
    obtain ⟨_, henter, h⟩ := bind_eq_ok.1 h
    obtain ⟨texts, htexts, -⟩ := bind_eq_ok.1 h
    have hlt := lt_of_enter henter
    rw [writeItems] at htexts
    obtain ⟨first, hfirst, htexts⟩ := bind_eq_ok.1 htexts
    obtain ⟨rest, hrest, -⟩ := bind_eq_ok.1 htexts
    rw [writeItems] at hrest
    obtain ⟨second, hsecond, -⟩ := bind_eq_ok.1 hrest
    obtain ⟨hv, hvdeep⟩ := hf.value (depth + 1) hlt v first hfirst
    obtain ⟨hw, hwdeep⟩ := hf.value (depth + 1) hlt w second hsecond
    rw [Value.listed, Value.consists, Value.itemsConsist_iff]
    refine ⟨by simp [hv, hw], ?_⟩
    rw [Value.height_pair]
    omega

theorem Only.items (hf : f.Only name scalar) (depth : Nat) (hdepth : depth ≤ f.deepest) :
    ∀ (xs : List Value) (texts : List (List Char)),
      f.writeItems depth (Value.itemsListed xs) = .ok texts →
      Value.itemsConsist name scalar (Value.itemsListed xs) = true ∧
        depth + Value.itemsLevels 1 xs ≤ f.deepest
  | [], _, _ => by
    rw [Value.itemsListed, Value.itemsConsist, Value.itemsLevels]
    exact ⟨rfl, hdepth⟩
  | v :: vs, texts, h => by
    rw [Value.itemsListed, writeItems] at h
    obtain ⟨head, hhead, h⟩ := bind_eq_ok.1 h
    obtain ⟨rest, hrest, -⟩ := bind_eq_ok.1 h
    obtain ⟨hv, hvdeep⟩ := hf.value depth hdepth v head hhead
    obtain ⟨hvs, hvsdeep⟩ := hf.items depth hdepth vs rest hrest
    rw [Value.itemsListed, Value.itemsConsist, Value.itemsLevels_cons, hv, hvs]
    exact ⟨rfl, by omega⟩

theorem Only.members (hf : f.Only name scalar) (depth : Nat) (hdepth : depth ≤ f.deepest) :
    ∀ (ms : List (Scalar × Value)) (texts : List (List Char)),
      f.writeMembers depth (Value.membersListed ms) = .ok texts →
      Value.membersConsist name scalar (Value.membersListed ms) = true ∧
        depth + Value.membersLevels 1 ms ≤ f.deepest
  | [], _, _ => by
    rw [Value.membersListed, Value.membersConsist, Value.membersLevels]
    exact ⟨rfl, hdepth⟩
  | (n, v) :: ms, texts, h => by
    rw [Value.membersListed, writeMembers] at h
    obtain ⟨label, hlabel, h⟩ := bind_eq_ok.1 h
    obtain ⟨body, hbody, h⟩ := bind_eq_ok.1 h
    obtain ⟨rest, hrest, -⟩ := bind_eq_ok.1 h
    obtain ⟨hv, hvdeep⟩ := hf.value depth hdepth v body hbody
    obtain ⟨hms, hmsdeep⟩ := hf.members depth hdepth ms rest hrest
    rw [Value.membersListed, Value.membersConsist, Value.membersLevels_cons,
      hf.label n label hlabel, hv, hms]
    exact ⟨rfl, by omega⟩

end

end Json.Style

/-! ## Records that are read back -/

namespace Value

variable {name scalar : Scalar → Bool} {nameBack : Scalar → String} {scalarBack : Scalar → Scalar}

theorem itemsRestored_eq_map (xs : List Value) :
    itemsRestored nameBack scalarBack xs = xs.map (restored nameBack scalarBack) := by
  induction xs with
  | nil => rfl
  | cons v vs ih => rw [itemsRestored, ih, List.map_cons]

theorem membersRestored_eq_map (ms : List (Scalar × Value)) :
    membersRestored nameBack scalarBack ms =
      ms.map fun m => (.text (nameBack m.1), m.2.restored nameBack scalarBack) := by
  induction ms with
  | nil => rfl
  | cons m ms ih => rw [membersRestored, ih, List.map_cons]

theorem record_eq (ms : List (String × Value)) :
    record ms = .object (ms.map fun m => (.text m.1, m.2)) := rfl

theorem listed_record (ms : List (String × Value)) :
    (record ms).listed = record (ms.map fun m => (m.1, m.2.listed)) := by
  rw [record_eq, listed, membersListed_eq_map, record_eq, List.map_map, List.map_map]
  rfl

/-- A record whose fields have different names keeps them, if texts stand for themselves. -/
theorem restored_record (hname : ∀ s, nameBack (.text s) = s) {ms : List (String × Value)}
    (hnodup : (ms.map (·.1)).Nodup) :
    (record ms).restored nameBack scalarBack =
      record (ms.map fun m => (m.1, m.2.restored nameBack scalarBack)) := by
  have hmembers : membersRestored nameBack scalarBack (ms.map fun m => (.text m.1, m.2)) =
      ms.map fun m => (.text m.1, m.2.restored nameBack scalarBack) := by
    rw [membersRestored_eq_map, List.map_map]
    simp [Function.comp_def, hname]
  have hnames : (ms.map fun m => (Scalar.text m.1, m.2.restored nameBack scalarBack)).map (·.1) =
      (ms.map (·.1)).map .text := by
    simp [Function.comp_def]
  rw [record_eq, restored, hmembers, collected_eq_append, List.nil_append, record_eq, List.map_map]
  · rfl
  · rw [List.nil_append]
    intro m hm
    obtain ⟨x, -, rfl⟩ := List.mem_map.1 hm
    rfl
  · rw [List.nil_append, hnames]
    exact hnodup.map fun _ _ => Scalar.text.inj

theorem readable_record {bare : Nat} (hbare : bare ≤ 1) (hname : ∀ s, name (.text s) = true)
    {ms : List (String × Value)} {depth : Nat} :
    (record ms).Readable name scalar bare (depth + 1) ↔
      ∀ m ∈ ms, m.2.Readable name scalar bare depth := by
  rw [record_eq, readable_object hbare]
  simp only [List.mem_map, forall_exists_index, and_imp, forall_apply_eq_imp_iff₂, hname, true_and]

/-- Whether a value is an infinite number or a NaN. -/
def isNonFinite : Value → Bool
  | .float x => !x.isFinite
  | _ => false

end Value

/-! ## Scalars -/

namespace Store.Codec

/-- Whether a scalar is stored: bytes encode a text, and a text consists of characters. -/
def isWritten : Scalar → Bool
  | .bytes data => (textOfBytes? data).isSome
  | .broken _ => false
  | _ => true

/-- Whether the text of a scalar is read: an integer that takes too many digits is refused, and its
sign is one of them. -/
def isReadable : Scalar → Bool
  | .int n => (Decimal.integer n).length ≤ Fault.maxDigits
  | s => isWritten s

/-- What a scalar comes back as: a date and bytes as their text, and a double as the number that its
digits stand for, or as null if JSON does not have it. -/
def restore : Scalar → Scalar
  | .float x =>
    match Json.Reader.plain .strict (float x) with
    | .ok (s, _) => s
    | .error _ => .null
  | .moment m => .text (String.ofList m.stamp)
  | .bytes data => .text ((textOfBytes? data).getD "")
  | s => s

/-- What a member name comes back as. -/
def restoreName (s : Scalar) : String :=
  match label s with
  | .ok cs => String.ofList cs
  | .error _ => ""

/-- A value as it comes back. -/
abbrev restored (v : Value) : Value := v.listed.restored restoreName restore

/-- A value that is stored with scalars of some kind, and only so many containers inside each other,
where an empty one counts `bare`. -/
abbrev Fits (scalar : Scalar → Bool) (bare depth : Nat) (v : Value) : Prop :=
  v.listed.Readable isWritten scalar bare depth

theorem takes_strict_iff {n : Int} :
    Json.Reader.Takes .strict n ↔ (Decimal.integer n).length ≤ Fault.maxDigits := by
  have hlength : Json.Reader.integerLength .strict (n < 0) (Decimal.digits n.natAbs) =
      (Decimal.integer n).length := by
    unfold Decimal.integer
    split
    · rename_i hneg
      simp [Json.Reader.integerLength, hneg, Json.Dialect.strict]
    · rename_i hpos
      simp [Json.Reader.integerLength, hpos]
  rw [Json.Reader.Takes, hlength]

theorem bytesText_of_textOfBytes? {data : List UInt8} {s : String}
    (h : textOfBytes? data = some s) : bytesText data = .ok s.toList := by
  unfold textOfBytes? at h
  rw [bytesText, h]

theorem textOfBytes?_of_bytesText {data : List UInt8} {cs : List Char}
    (h : bytesText data = .ok cs) : (textOfBytes? data).isSome = true := by
  unfold bytesText at h
  unfold textOfBytes?
  split at h
  · rename_i htext
    rw [htext]
    rfl
  · cases h
  · cases h

/-- **A scalar that is stored** is one that can be. -/
theorem only_written : style.Only isWritten isWritten where
  label s cs h := by
    cases s with
    | bytes data => exact textOfBytes?_of_bytesText h
    | broken codes => cases h
    | _ => rfl
  scalar s cs h := by
    cases s with
    | bytes data =>
      obtain ⟨text, htext, -⟩ := map_eq_ok.1 h
      exact textOfBytes?_of_bytesText htext
    | broken codes => cases h
    | _ => rfl

theorem restoreName_text (s : String) : restoreName (.text s) = s := String.ofList_toList

/-- A finite double comes back as a double. -/
theorem exists_restore_float {x : Binary64} (hx : x.isFinite = true) :
    ∃ y, (∀ d, Json.Reader.number d (float x) = .ok (.float y, [])) ∧
      restore (.float x) = .float y := by
  obtain ⟨y, hy⟩ := exists_number_float hx
  have hplain := Json.Reader.plain_of_number (hy .strict) Json.Reader.ends_nil
  rw [List.append_nil] at hplain
  exact ⟨y, hy, by rw [restore, hplain]⟩

theorem restore_float_of_not_isFinite {x : Binary64} (hx : ¬ x.isFinite = true) :
    float x = "null".toList ∧ restore (.float x) = .null := by
  have hfloat : float x = "null".toList := if_neg hx
  exact ⟨hfloat, by rw [restore, hfloat]; rfl⟩

theorem label_eq_restoreName {s : Scalar} (h : isWritten s = true) :
    label s = .ok (restoreName s).toList := by
  have hlabel : ∃ cs, label s = .ok cs := by
    cases s with
    | bytes data =>
      obtain ⟨text, htext⟩ := Option.isSome_iff_exists.1 h
      exact ⟨_, bytesText_of_textOfBytes? htext⟩
    | broken codes => cases h
    | _ => exact ⟨_, rfl⟩
  obtain ⟨cs, hcs⟩ := hlabel
  rw [restoreName, hcs, String.toList_ofList]

/-- **What is stored and can be read** comes back restored. -/
theorem restores_readable : style.Restores .strict isWritten isReadable restoreName restore where
  separator := rfl
  colon := ⟨[' '], rfl, fun c hc => by
    rw [List.mem_singleton.1 hc]
    rfl⟩
  quote := rfl
  label s h := label_eq_restoreName h
  scalar s h := by
    cases s with
    | null => exact ⟨_, rfl, Json.reads_of_spells Json.Reader.spells_null⟩
    | bool b => exact ⟨_, rfl, Json.reads_of_spells (Json.Reader.spells_bool b)⟩
    | int n =>
      have htakes := takes_strict_iff.2 (of_decide_eq_true h)
      exact ⟨_, rfl, Json.reads_of_spells (Json.Reader.spells_integer htakes)⟩
    | float x =>
      refine ⟨_, rfl, ?_⟩
      by_cases hx : x.isFinite = true
      · obtain ⟨y, hy, hrestore⟩ := exists_restore_float hx
        rw [hrestore]
        exact Json.reads_of_spells (Json.Reader.spells_of_number (hy .strict))
      · obtain ⟨hfloat, hrestore⟩ := restore_float_of_not_isFinite hx
        rw [hfloat, hrestore]
        exact Json.reads_of_spells Json.Reader.spells_null
    | text s => exact ⟨_, rfl, Json.reads_text .strict s⟩
    | moment m =>
      have hreads := Json.reads_text .strict (String.ofList m.stamp)
      rw [String.toList_ofList] at hreads
      exact ⟨_, rfl, hreads⟩
    | bytes data =>
      obtain ⟨text, htext⟩ := Option.isSome_iff_exists.1 h
      have hstored : style.scalar (.bytes data) = .ok (Text.Quoted.json text.toList) :=
        map_eq_ok.2 ⟨_, bytesText_of_textOfBytes? htext, rfl⟩
      refine ⟨_, hstored, ?_⟩
      rw [restore, htext]
      exact Json.reads_text .strict text
    | broken codes => cases h

/-- What is stored and cannot be read is refused. -/
theorem refusesOther : style.RefusesOther .strict isWritten isReadable := by
  intro s hwritten hs
  cases s with
  | int n =>
    have hlong : ¬ Json.Reader.Takes .strict n := by
      rw [takes_strict_iff]
      simpa [isReadable] using hs
    exact ⟨_, rfl, fun depth => Json.refuses_integer depth hlong⟩
  | _ => exact absurd (hwritten.symm.trans hs) (by decide)

/-! ## Values -/

theorem restored_scalar (s : Scalar) : restored (.scalar s) = .scalar (restore s) := by
  rw [restored, Value.listed, Value.restored]

theorem restored_text (s : String) : restored (.text s) = .text s := restored_scalar (.text s)

theorem restored_bool (b : Bool) : restored (.bool b) = .bool b := restored_scalar (.bool b)

theorem restored_int (n : Int) : restored (.int n) = .int n := restored_scalar (.int n)

theorem restored_textOrNull (s : Option String) :
    restored (Value.textOrNull s) = Value.textOrNull s := by
  cases s with
  | none => exact restored_scalar .null
  | some s => exact restored_text s

theorem restored_list (xs : List Value) : restored (.list xs) = .list (xs.map restored) := by
  rw [restored, Value.listed, Value.restored, Value.itemsRestored_eq_map,
    Value.itemsListed_eq_map, List.map_map]
  rfl

/-- A record whose fields have different names comes back with them. -/
theorem restored_record {ms : List (String × Value)} (hnodup : (ms.map (·.1)).Nodup) :
    restored (.record ms) = .record (ms.map fun m => (m.1, restored m.2)) := by
  have hnames : ((ms.map fun m => (m.1, m.2.listed)).map (·.1)).Nodup := by
    rwa [List.map_map]
  rw [restored, Value.listed_record, Value.restored_record restoreName_text hnames, List.map_map]
  rfl

/-- A kind of scalars to which null, truth values and texts belong. -/
structure HasPlain (scalar : Scalar → Bool) : Prop where
  /-- Null belongs to it. -/
  null : scalar .null = true
  /-- Truth values do. -/
  bool : ∀ b, scalar (.bool b) = true
  /-- Texts do. -/
  text : ∀ s, scalar (.text s) = true

theorem hasPlain_isWritten : HasPlain isWritten := ⟨rfl, fun _ => rfl, fun _ => rfl⟩

theorem hasPlain_isReadable : HasPlain isReadable := ⟨rfl, fun _ => rfl, fun _ => rfl⟩

section Fits

variable {scalar : Scalar → Bool} {bare n : Nat}

theorem fits_scalar {s : Scalar} : Fits scalar bare n (.scalar s) ↔ scalar s = true := by
  rw [Fits, Value.listed, Value.readable_scalar]

theorem HasPlain.fits_textOrNull (h : HasPlain scalar) (s : Option String) :
    Fits scalar bare n (Value.textOrNull s) := by
  cases s with
  | none => exact fits_scalar.2 h.null
  | some s => exact fits_scalar.2 (h.text s)

theorem fits_list (hbare : bare ≤ 1) {xs : List Value} :
    Fits scalar bare (n + 1) (.list xs) ↔ ∀ v ∈ xs, Fits scalar bare n v := by
  rw [Fits, Value.listed, Value.readable_list hbare, Value.itemsListed_eq_map, List.forall_mem_map]

theorem fits_record (hbare : bare ≤ 1) {ms : List (String × Value)} :
    Fits scalar bare (n + 1) (.record ms) ↔ ∀ m ∈ ms, Fits scalar bare n m.2 := by
  rw [Fits, Value.listed_record, Value.readable_record hbare fun _ => rfl, List.forall_mem_map]

end Fits

/-- An operand comes back as null if it is null, or a number that JSON does not have. -/
theorem isNull_restored (v : Value) : (restored v).isNull = (v.isNull || v.isNonFinite) := by
  cases v with
  | scalar s =>
    rw [restored_scalar]
    cases s with
    | float x =>
      by_cases hx : x.isFinite = true
      · obtain ⟨y, -, hrestore⟩ := exists_restore_float hx
        simp [hrestore, Value.isNull, Value.isNonFinite, hx]
      · rw [(restore_float_of_not_isFinite hx).2]
        simp [Value.isNull, Value.isNonFinite, hx]
    | _ => rfl
  | _ => rw [restored, Value.listed, Value.restored]; rfl

end Store.Codec

end MessageRouting
