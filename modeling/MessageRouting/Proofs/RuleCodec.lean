import MessageRouting.Proofs.Literals
import MessageRouting.Proofs.RuleForm
import MessageRouting.Proofs.StoredValues

/-!
# The stored form of rules

Rules may compare with data that JSON does not have: dates, bytes, sets and pairs, names that are no
texts, infinite numbers. They are stored all the same, unless an operand nests too deep or has a
text that is not all characters (`Rule.isWritten`, `Store.Codec.isWritten_of_encode`), and come back
as they can be (`Rule.asStored`): with the texts of their dates, bytes and names, lists for sets and
pairs, and null for a number that JSON does not have. A text of rules is read as a whole, and so it
holds no rules if one of them does not come back (`Rule.survives`): if it has an integer of too many
digits or too many containers inside each other, or if it looks for an infinite number or a NaN,
since a condition that needs an operand is refused without one. Else it holds the rules as they come
back (`Store.Codec.rules?_encode`).

Rules that can be stored as they are (`Rule.isStorable`: JSON has all that their conditions compare
with, and their numbers are short enough) make the round trip (`Store.Codec.round_trip`).
-/

namespace MessageRouting

open Schema Store

/-! ## Conditions and rules -/

namespace Condition

/-- A condition as it comes back. -/
def asStored : Condition → Condition
  | field space path operator operand => field space path operator (Codec.restored operand)
  | expression e => expression e

/-- Whether the operand of a condition is stored with scalars of some kind, and only so many
containers inside each other, where an empty one counts `bare`. It stands in four of them. -/
def fits (scalar : Scalar → Bool) (bare depth : Nat) : Condition → Bool
  | field _ _ _ operand =>
    operand.listed.consists Codec.isWritten scalar &&
      operand.levels bare + Codec.outerLevels ≤ depth
  | expression _ => true

/-- Whether a condition is stored. -/
def isWritten (c : Condition) : Bool := c.fits Codec.isWritten 1 Codec.style.deepest

/-- Whether the text of a condition can be read. -/
def isReadable (c : Condition) : Bool :=
  c.fits Codec.isReadable Json.Dialect.strict.bareLevels Json.Dialect.strict.maxDepth

/-- Whether a condition still has the operand that it needs when it comes back. -/
def keepsOperand : Condition → Bool
  | field _ _ operator operand => !(operator.needsOperand && operand.isNonFinite)
  | expression _ => true

theorem restored_toValue (c : Condition) : Codec.restored c.toValue = c.asStored.toValue := by
  have hnodup : (c.fields.map (·.1)).Nodup := by
    cases c with
    | expression e => exact (by decide : ["type", "jq_expression"].Nodup)
    | field space path operator operand =>
      exact (by decide : ["field", "operator", "value", "type"].Nodup)
  refine (Codec.restored_record hnodup).trans ?_
  cases c with
  | expression e =>
    simp only [fields, List.map_cons, List.map_nil, Codec.restored_text]
    rfl
  | field space path operator operand =>
    simp only [fields, List.map_cons, List.map_nil, Codec.restored_text, Codec.restored_textOrNull]
    rfl

theorem fits_toValue {scalar : Scalar → Bool} (hscalar : Codec.HasPlain scalar) {bare : Nat}
    (hbare : bare ≤ 1) (n : Nat) (c : Condition) :
    Codec.Fits scalar bare (n + 1) c.toValue ↔
      c.fits scalar bare (n + Codec.outerLevels) = true := by
  refine (Codec.fits_record hbare).trans ?_
  cases c with
  | expression e => simp [entity, fields, Codec.fits_scalar, hscalar.text, fits]
  | field space path operator operand =>
    simp only [entity, fields, List.mem_cons, List.not_mem_nil, or_false, forall_eq_or_imp,
      forall_eq, Codec.fits_scalar, hscalar.text, hscalar.fits_textOrNull, true_and, and_true]
    rw [fits, Bool.and_eq_true, decide_eq_true_eq, Nat.add_le_add_iff_right, Codec.Fits,
      Value.Readable, Value.levels_listed]

/-- A condition that comes back is well formed if it still has its operand. -/
theorem wellFormed_asStored {c : Condition} (h : c.wellFormed = true) :
    c.asStored.wellFormed = c.keepsOperand := by
  cases c with
  | expression e => exact h
  | field space path operator operand =>
    rw [asStored, wellFormed, keepsOperand, Codec.isNull_restored]
    rw [wellFormed] at h
    cases hneeds : operator.needsOperand <;> simp_all

/-- A condition that comes back is refused if it has lost its operand. -/
theorem keepsOperand_of_check [Interpreter] {c c' : Condition} (hformed : c.wellFormed = true)
    (h : check c.asStored.toValue = .accepted c') : c.keepsOperand = true := by
  cases c with
  | expression e => rfl
  | field space path operator operand =>
    rw [asStored, check_field, Checked.within_eq_accepted, withOperand] at h
    split at h
    · cases h
    · rename_i hoperand
      rw [← wellFormed_asStored hformed, asStored, wellFormed, Bool.eq_false_iff.2 hoperand]
      rfl

end Condition

theorem Transform.restored_toValue (t : Option Transform) :
    Codec.restored ((t.map fun t => t.entity.toValue).getD .null) =
      (t.map fun t => t.entity.toValue).getD .null := by
  cases t with
  | none => exact Codec.restored_scalar .null
  | some t =>
    have hnodup : (t.entity.fields.map (·.1)).Nodup :=
      (by decide : ["enabled", "jq_expression"].Nodup)
    refine (Codec.restored_record hnodup).trans ?_
    simp only [entity, List.map_cons, List.map_nil, Codec.restored_text, Codec.restored_bool]
    rfl

namespace Rule

/-- A rule as it comes back. -/
def asStored (r : Rule) : Rule := { r with conditions := r.conditions.map Condition.asStored }

/-- Whether a rule is stored. -/
def isWritten (r : Rule) : Bool := r.conditions.all Condition.isWritten

/-- Whether the text of a rule can be read. -/
def isReadable (r : Rule) : Bool :=
  Codec.isReadable (.int r.priority) && r.conditions.all Condition.isReadable

/-- Whether a rule comes back: its text can be read, and no condition has lost its operand. -/
def survives (r : Rule) : Bool := r.isReadable && r.conditions.all Condition.keepsOperand

/-- Rules that are alike but for what their conditions compare with. -/
structure SameOutline (r s : Rule) : Prop where
  /-- The name. -/
  name : r.name = s.name
  /-- The description. -/
  description : r.description = s.description
  /-- Whether they take part in routing. -/
  enabled : r.enabled = s.enabled
  /-- The priority. -/
  priority : r.priority = s.priority
  /-- How the conditions are combined. -/
  combination : r.combination = s.combination
  /-- The transform. -/
  transform : r.transform = s.transform
  /-- The destination. -/
  destination : r.destination = s.destination
  /-- The number of conditions. -/
  conditions : r.conditions.length = s.conditions.length

theorem sameOutline_asStored (r : Rule) : SameOutline r r.asStored :=
  ⟨rfl, rfl, rfl, rfl, rfl, rfl, rfl, (List.length_map _).symm⟩

theorem restored_toValue (r : Rule) : Codec.restored r.toValue = r.asStored.toValue := by
  have hnodup : (r.entity.fields.map (·.1)).Nodup :=
    (by decide : ["name", "description", "enabled", "priority", "conditions", "condition_operator",
      "transform", "destination"].Nodup)
  have hconditions : Codec.restored (.list (r.conditions.map Condition.toValue)) =
      .list (r.asStored.conditions.map Condition.toValue) := by
    rw [Codec.restored_list, List.map_map]
    exact congrArg Value.list ((List.map_congr_left fun c _ => c.restored_toValue).trans
      (List.map_map ..).symm)
  refine (Codec.restored_record hnodup).trans ?_
  simp only [entity, List.map_cons, List.map_nil, Codec.restored_text, Codec.restored_bool,
    Codec.restored_int, Codec.restored_textOrNull, hconditions, Transform.restored_toValue]
  rfl

theorem fits_toValue {scalar : Scalar → Bool} (hscalar : Codec.HasPlain scalar) {bare : Nat}
    (hbare : bare ≤ 1) (n : Nat) (r : Rule) :
    Codec.Fits scalar bare (n + 3) r.toValue ↔ scalar (.int r.priority) = true ∧
      ∀ c ∈ r.conditions, c.fits scalar bare (n + Codec.outerLevels) = true := by
  have hconditions : Codec.Fits scalar bare (n + 2) (.list (r.conditions.map Condition.toValue)) ↔
      ∀ c ∈ r.conditions, c.fits scalar bare (n + Codec.outerLevels) = true := by
    rw [Codec.fits_list hbare, List.forall_mem_map]
    simp only [Condition.fits_toValue hscalar hbare]
  have htransform : Codec.Fits scalar bare (n + 2)
      ((r.transform.map fun t => t.entity.toValue).getD .null) := by
    cases r.transform with
    | none => exact Codec.fits_scalar.2 hscalar.null
    | some t =>
      refine (Codec.fits_record hbare).2 ?_
      simp [Transform.entity, Codec.fits_scalar, hscalar.bool, hscalar.text]
  refine (Codec.fits_record hbare).trans ?_
  simp only [entity, List.mem_cons, List.not_mem_nil, or_false, forall_eq_or_imp, forall_eq,
    Codec.fits_scalar, hscalar.bool, hscalar.text, hscalar.fits_textOrNull, hconditions, htransform,
    true_and, and_true]

/-- A rule whose conditions still have their operands is accepted as it comes back. -/
theorem check_asStored [Interpreter] {r : Rule} (hformed : r.wellFormed = true)
    (hkeeps : ∀ c ∈ r.conditions, c.keepsOperand = true) :
    check r.asStored.toValue = .accepted r.asStored := by
  refine check_toValue ?_
  simp only [wellFormed, Bool.and_eq_true, List.all_eq_true] at hformed ⊢
  refine ⟨⟨hformed.1.1, fun c' hc' => ?_⟩, hformed.2⟩
  obtain ⟨c, hc, rfl⟩ := List.mem_map.1 hc'
  rw [Condition.wellFormed_asStored (hformed.1.2 c hc), hkeeps c hc]

/-- No other rule is accepted as it comes back. -/
theorem keepsOperand_of_check [Interpreter] {r s : Rule} (hformed : r.wellFormed = true)
    (h : check r.asStored.toValue = .accepted s) : ∀ c ∈ r.conditions, c.keepsOperand = true := by
  -- the fields from the last one to the conditions
  obtain ⟨_, _, h₇, -, -⟩ := Checked.seq_eq_accepted.1 h
  obtain ⟨_, _, h₆, -, -⟩ := Checked.seq_eq_accepted.1 h₇
  obtain ⟨_, _, h₅, -, -⟩ := Checked.seq_eq_accepted.1 h₆
  obtain ⟨_, conditions, -, hconditions, -⟩ := Checked.seq_eq_accepted.1 h₅
  have hlist : listOf Condition.check (.list (r.asStored.conditions.map Condition.toValue)) =
      .accepted conditions := Checked.within_eq_accepted.1 hconditions
  intro c hc
  obtain ⟨c', hc'⟩ := forall_of_itemsFrom hlist c.asStored.toValue
    (List.mem_map_of_mem (List.mem_map_of_mem hc))
  exact Condition.keepsOperand_of_check (wellFormed_conditions hformed c hc) hc'

end Rule

/-! ## Collections -/

variable {rules : List Rule}

theorem Rule.survives_iff {r : Rule} : r.survives = true ↔
    r.isReadable = true ∧ ∀ c ∈ r.conditions, c.keepsOperand = true := by
  rw [Rule.survives, Bool.and_eq_true, List.all_eq_true]

theorem Rule.fits_list {scalar : Scalar → Bool} (hscalar : Codec.HasPlain scalar) {bare : Nat}
    (hbare : bare ≤ 1) (n : Nat) :
    Codec.Fits scalar bare (n + Codec.outerLevels) (.list (rules.map Rule.toValue)) ↔
      ∀ r ∈ rules, scalar (.int r.priority) = true ∧
        ∀ c ∈ r.conditions, c.fits scalar bare (n + Codec.outerLevels) = true := by
  rw [Codec.outerLevels, Codec.fits_list hbare, List.forall_mem_map]
  simp only [Rule.fits_toValue hscalar hbare, Codec.outerLevels]

namespace Store.Codec

/-- Rules that have a text are stored. -/
theorem isWritten_of_encode {text : List Char} (h : encode rules = .ok text) :
    ∀ r ∈ rules, r.isWritten = true := by
  rw [encode, Json.Style.write, ← Json.Style.writeAt_listed rfl] at h
  obtain ⟨hconsists, hdeep⟩ := only_written.value 0 (Nat.zero_le _) _ text h
  rw [Nat.zero_add] at hdeep
  have hfits : Fits isWritten 1 (operandLevels + outerLevels) (.list (rules.map Rule.toValue)) :=
    ⟨hconsists, by rwa [Value.levels_listed]⟩
  intro r hr
  exact List.all_eq_true.2 ((Rule.fits_list hasPlain_isWritten (Nat.le_refl 1) _).1 hfits r hr).2

variable [Interpreter]

/-- Rules are accepted as they come back if all conditions still have their operands. -/
theorem toOption_listOf_check (hformed : ∀ r ∈ rules, r.wellFormed = true) :
    (listOf Rule.check (.list (rules.map fun r => r.asStored.toValue))).toOption =
      if ∀ r ∈ rules, ∀ c ∈ r.conditions, c.keepsOperand = true then some (rules.map Rule.asStored)
      else none := by
  split
  · rename_i hkeeps
    have haccepted : ∀ r ∈ rules.map Rule.asStored, Rule.check r.toValue = .accepted r := by
      intro r hr
      obtain ⟨s, hs, rfl⟩ := List.mem_map.1 hr
      exact Rule.check_asStored (hformed s hs) (hkeeps s hs)
    have hlist := listOf_map haccepted
    rw [List.map_map] at hlist
    rw [← Function.comp_def, hlist]
    rfl
  · rename_i hlost
    cases hchecked : listOf Rule.check (.list (rules.map fun r => r.asStored.toValue)) with
    | rejected complaints => rfl
    | accepted found =>
      refine absurd (fun r hr => ?_) hlost
      obtain ⟨s, hs⟩ := forall_of_itemsFrom hchecked _ (List.mem_map_of_mem hr)
      exact Rule.keepsOperand_of_check (hformed r hr) hs

/-- The rules that a text holds, unless it holds anything else. -/
def rules? (cs : List Char) : Option (List Rule) :=
  match Json.Dialect.strict.read cs with
  | .error _ => none
  | .ok v => (listOf Rule.check v).toOption

theorem decode_eq (cs : List Char) : decode cs = (rules? cs).getD [] := by
  unfold decode rules?
  cases Json.Dialect.strict.read cs with
  | error e => rfl
  | ok v => cases h : listOf Rule.check v <;> simp [h, Checked.toOption]

/-- The bytes of a text hold what the text holds. -/
theorem decodeBytes_toUTF8 (text : List Char) :
    decodeBytes (String.ofList text).toUTF8 = decode text := by
  have hvalid : String.fromUTF8? (String.ofList text).toUTF8 = some (String.ofList text) :=
    dif_pos (String.ofList text).isValidUTF8
  rw [decodeBytes, hvalid]
  exact congrArg decode String.toList_ofList

/-- **What the text of rules holds**: the rules as they come back if all of them do, and no rules
otherwise. Rules that are stored have a text. -/
theorem rules?_encode (hformed : ∀ r ∈ rules, r.wellFormed = true)
    (hwritten : ∀ r ∈ rules, r.isWritten = true) :
    ∃ text, encode rules = .ok text ∧ rules? text =
      if rules.all Rule.survives = true then some (rules.map Rule.asStored) else none := by
  have hfits : Fits isWritten 1 (operandLevels + outerLevels) (.list (rules.map Rule.toValue)) :=
    (Rule.fits_list hasPlain_isWritten (Nat.le_refl 1) _).2 fun r hr =>
      ⟨rfl, List.all_eq_true.1 (hwritten r hr)⟩
  obtain ⟨text, htext, hread⟩ :=
    restores_readable.read_write_iff refusesOther (by decide) hfits.1 hfits.2
  rw [Json.Style.write, Json.Style.writeAt_listed rfl] at htext
  refine ⟨text, htext, ?_⟩
  have hreadable : Fits isReadable Json.Dialect.strict.bareLevels Json.Dialect.strict.maxDepth
      (.list (rules.map Rule.toValue)) ↔ ∀ r ∈ rules, r.isReadable = true := by
    refine (Rule.fits_list hasPlain_isReadable (by decide) 196).trans ?_
    simp only [Rule.isReadable, Bool.and_eq_true, List.all_eq_true]
    exact Iff.rfl
  have hsurvives : rules.all Rule.survives = true ↔
      Fits isReadable Json.Dialect.strict.bareLevels Json.Dialect.strict.maxDepth
          (.list (rules.map Rule.toValue)) ∧
        ∀ r ∈ rules, ∀ c ∈ r.conditions, c.keepsOperand = true := by
    rw [hreadable, List.all_eq_true, ← forall₂_and]
    simp only [Rule.survives_iff]
  rw [if_congr hsurvives rfl rfl]
  rcases hread with ⟨hvalue, hread⟩ | ⟨hvalue, e, hread⟩
  · have hrestored : restored (.list (rules.map Rule.toValue)) =
        .list (rules.map fun r => r.asStored.toValue) := by
      rw [restored_list, List.map_map]
      exact congrArg Value.list (List.map_congr_left fun r _ => r.restored_toValue)
    simp only [rules?, hread, hrestored, toOption_listOf_check hformed, Fits, hvalue, true_and]
  · simp only [rules?, hread, Fits, hvalue, false_and, if_false]

end Store.Codec

/-! ## Rules that are stored as they are -/

namespace Store.Codec

/-- Whether a double is read back from the digits that are printed for it. -/
def readsBack (x : Binary64) : Bool :=
  match Json.Reader.number .strict (float x) with
  | .ok (.float y, []) => x = y
  | _ => false

/-- Whether a scalar is stored as it is: an integer takes few enough digits, a double is finite and
read back, and there are no dates and bytes. -/
def keeps : Scalar → Bool
  | .int n => (Decimal.integer n).length ≤ Fault.maxDigits
  | .float x => x.isFinite && readsBack x
  | .moment _ | .bytes _ | .broken _ => false
  | _ => true

theorem number_of_readsBack {x : Binary64} (h : readsBack x = true) :
    Json.Reader.number .strict (float x) = .ok (.float x, []) := by
  unfold readsBack at h
  split at h
  · rename_i hnumber
    rw [hnumber, of_decide_eq_true h]
  · cases h

theorem restore_of_keeps {s : Scalar} (h : keeps s = true) : restore s = s := by
  cases s with
  | float x =>
    rw [keeps, Bool.and_eq_true] at h
    have hplain := Json.Reader.plain_of_number (number_of_readsBack h.2) Json.Reader.ends_nil
    rw [List.append_nil] at hplain
    rw [restore, hplain]
  | moment m => cases h
  | bytes data => cases h
  | broken codes => cases h
  | _ => rfl

theorem isReadable_of_keeps {s : Scalar} (h : keeps s = true) : isReadable s = true := by
  cases s with
  | int n => exact h
  | bytes data => cases h
  | broken codes => cases h
  | _ => rfl

theorem isWritten_of_keeps {s : Scalar} (h : keeps s = true) : isWritten s = true := by
  cases s with
  | bytes data => cases h
  | broken codes => cases h
  | _ => rfl

theorem isWritten_of_isText {s : Scalar} (h : s.isText = true) : isWritten s = true := by
  cases s with
  | text s => rfl
  | _ => cases h

theorem text_restoreName {s : Scalar} (h : s.isText = true) : .text (restoreName s) = s := by
  cases s with
  | text s => rw [restoreName_text]
  | _ => cases h

end Store.Codec

/-- Whether the operand of a condition is stored as it is. -/
def Condition.isStorable : Condition → Bool
  | field _ _ _ operand =>
    operand.consists Scalar.isText Codec.keeps && operand.unambiguous &&
      operand.levels Json.Dialect.strict.bareLevels + Codec.outerLevels ≤
        Json.Dialect.strict.maxDepth
  | expression _ => true

/-- Whether a rule is stored as it is. -/
def Rule.isStorable (r : Rule) : Bool :=
  Codec.keeps (.int r.priority) && r.conditions.all Condition.isStorable

namespace Condition

theorem asStored_eq_self {c : Condition} (h : c.isStorable = true) : c.asStored = c := by
  cases c with
  | expression e => rfl
  | field space path operator operand =>
    simp only [isStorable, Bool.and_eq_true] at h
    have hoperand : Codec.restored operand = operand := by
      rw [Codec.restored, Value.listed_eq_self operand h.1.1]
      exact Value.restored_eq_self (fun _ => Codec.text_restoreName)
        (fun _ => Codec.restore_of_keeps) operand h.1.1 h.1.2
    rw [asStored, hoperand]

theorem isReadable_of_isStorable {c : Condition} (h : c.isStorable = true) :
    c.isReadable = true := by
  cases c with
  | expression e => rfl
  | field space path operator operand =>
    simp only [isStorable, Bool.and_eq_true] at h
    rw [isReadable, fits, Bool.and_eq_true, Value.listed_eq_self operand h.1.1]
    exact ⟨Value.consists_mono (fun _ => Codec.isWritten_of_isText)
      (fun _ => Codec.isReadable_of_keeps) operand h.1.1, h.2⟩

theorem isWritten_of_isStorable {c : Condition} (h : c.isStorable = true) :
    c.isWritten = true := by
  cases c with
  | expression e => rfl
  | field space path operator operand =>
    simp only [isStorable, Bool.and_eq_true, decide_eq_true_eq] at h
    rw [isWritten, fits, Bool.and_eq_true, Value.listed_eq_self operand h.1.1, decide_eq_true_eq]
    refine ⟨Value.consists_mono (fun _ => Codec.isWritten_of_isText)
      (fun _ => Codec.isWritten_of_keeps) operand h.1.1, ?_⟩
    -- the reader opens fewer containers than are written
    calc operand.height + Codec.outerLevels
        ≤ operand.levels Json.Dialect.strict.bareLevels + 1 + Codec.outerLevels :=
          Nat.add_le_add_right (Value.height_le_levels _ operand) _
      _ ≤ Json.Dialect.strict.maxDepth + 1 := by omega
      _ ≤ Codec.style.deepest := by decide

theorem keepsOperand_of_isStorable {c : Condition} (h : c.isStorable = true) :
    c.keepsOperand = true := by
  cases c with
  | expression e => rfl
  | field space path operator operand =>
    simp only [isStorable, Bool.and_eq_true] at h
    have hfinite : operand.isNonFinite = false := by
      unfold Value.isNonFinite
      split
      · rename_i x
        have hkeeps := h.1.1
        rw [Value.consists, Codec.keeps, Bool.and_eq_true] at hkeeps
        rw [hkeeps.1]
        rfl
      · rfl
    rw [keepsOperand, hfinite, Bool.and_false]
    rfl

end Condition

namespace Rule

variable {r : Rule}

theorem asStored_eq_self (h : r.isStorable = true) : r.asStored = r := by
  rw [isStorable, Bool.and_eq_true, List.all_eq_true] at h
  have hconditions : r.conditions.map Condition.asStored = r.conditions :=
    (List.map_congr_left fun c hc => Condition.asStored_eq_self (h.2 c hc)).trans (List.map_id _)
  rw [asStored, hconditions]

theorem isWritten_of_isStorable (h : r.isStorable = true) : r.isWritten = true := by
  rw [isStorable, Bool.and_eq_true, List.all_eq_true] at h
  exact List.all_eq_true.2 fun c hc => Condition.isWritten_of_isStorable (h.2 c hc)

theorem survives_of_isStorable (h : r.isStorable = true) : r.survives = true := by
  rw [isStorable, Bool.and_eq_true, List.all_eq_true] at h
  rw [survives_iff, isReadable, Bool.and_eq_true, List.all_eq_true]
  exact ⟨⟨h.1, fun c hc => Condition.isReadable_of_isStorable (h.2 c hc)⟩,
    fun c hc => Condition.keepsOperand_of_isStorable (h.2 c hc)⟩

end Rule

namespace Store.Codec

section RoundTrip

variable [Interpreter]

/-- Rules that can be stored as they are have a text that holds them. -/
theorem exists_text (hformed : ∀ r ∈ rules, r.wellFormed = true)
    (hstorable : ∀ r ∈ rules, r.isStorable = true) :
    ∃ text, encode rules = .ok text ∧ rules? text = some rules := by
  obtain ⟨text, htext, hrules⟩ := rules?_encode hformed fun r hr =>
    Rule.isWritten_of_isStorable (hstorable r hr)
  have hsurvive : rules.all Rule.survives = true :=
    List.all_eq_true.2 fun r hr => Rule.survives_of_isStorable (hstorable r hr)
  have hsame : rules.map Rule.asStored = rules :=
    (List.map_congr_left fun r hr => Rule.asStored_eq_self (hstorable r hr)).trans (List.map_id _)
  rw [if_pos hsurvive, hsame] at hrules
  exact ⟨text, htext, hrules⟩

/-- **The stored form of rules holds these rules**, if they can be stored. -/
theorem exists_encode (hformed : ∀ r ∈ rules, r.wellFormed = true)
    (hstorable : ∀ r ∈ rules, r.isStorable = true) :
    ∃ text, encode rules = .ok text ∧ decode text = rules := by
  obtain ⟨text, htext, hrules⟩ := exists_text hformed hstorable
  exact ⟨text, htext, by rw [decode_eq, hrules, Option.getD_some]⟩

end RoundTrip

/-- A rule with all kinds of operands. -/
def varied : Rule where
  name := "all \"kinds\""
  description := none
  enabled := false
  priority := -7
  conditions := [
    .field .payload (some "order") .equals
      (.object [(.text "weight", .float ⟨0x4004000000000000⟩), (.text "count", .int 3),
        (.text "parts", .list [.null, .bool true, .list [], .object [], .text "kg\n\x01é"]),
        (.text "", .float ⟨0x4008000000000000⟩)]),
    .expression ".total > 1",
    .field .header none .regex (.text "^a\\d")]
  combination := .any
  transform := some ⟨true, "."⟩
  destination := "freight"

section

open scoped Interpreter.Usual

end

/-- A one with zeros behind it, below zero. -/
def debt (zeros : Nat) : Int := -(10 ^ zeros : Nat)

theorem natAbs_debt (zeros : Nat) : (debt zeros).natAbs = 10 ^ zeros := by
  rw [debt, Int.natAbs_neg, Int.natAbs_natCast]

theorem length_integer_debt (zeros : Nat) :
    (Decimal.integer (debt zeros)).length = zeros + 2 := by
  have hpow : 0 < 10 ^ zeros := Nat.pow_pos (by decide)
  have hnegative : debt zeros < 0 := by
    unfold debt
    omega
  rw [Decimal.integer, if_pos hnegative, List.length_cons, natAbs_debt, Decimal.length_digits_pow]

theorem isReadable_debt {zeros : Nat} (h : Fault.maxDigits < zeros + 2) :
    isReadable (.int (debt zeros)) = false := by
  rw [isReadable, length_integer_debt, decide_eq_false (Nat.not_le.2 h)]

/-- A rule that compares with an integer of as many digits as are written and read. -/
def indebted : Rule where
  name := "indebted"
  description := none
  enabled := true
  priority := 5
  conditions := [.field .payload (some "balance") .equals (.int (debt 4299))]
  combination := .all
  transform := none
  destination := "collection"

section

open scoped Interpreter.Usual

end

end Store.Codec

end MessageRouting
