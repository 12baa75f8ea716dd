import Mathlib
import MessageRouting.Proofs.JsonTokens
import MessageRouting.Proofs.JsonValues

/-!
# Values that can be written

A value has a plain text exactly if none of its integers has too many digits and it does not nest
too deep (`Value.writtenIf_plainText`), and an integer has too many as soon as a power of ten says
so (`Scalar.isWritable_int_of_le`). It has the text that conditions look into if, besides, no member
has a date or bytes as its name (`Value.writtenIf_asText`).
-/

namespace MessageRouting

/-! ## What can be written -/

namespace Scalar

/-- Whether a scalar has a literal. -/
def isWritable : Scalar → Bool
  | int n => (Decimal.digits n.natAbs).length ≤ Fault.maxDigits
  | _ => true

/-- Whether a scalar can be written as the name of a member. -/
def isLabel : Scalar → Bool
  | moment _ | bytes _ => false
  | s => s.isWritable

end Scalar

namespace Value

mutual

/-- Whether the integers in a value are short enough, and its names are of some kind. -/
def isWritableWith (name : Scalar → Bool) : Value → Bool
  | .scalar s => s.isWritable
  | .list xs => itemsWritableWith name xs
  | .object ms => membersWritableWith name ms
  | .set es => es.all Scalar.isWritable
  | .pair v w => isWritableWith name v && isWritableWith name w

/-- Whether the integers in some items are short enough, and their names are of some kind. -/
def itemsWritableWith (name : Scalar → Bool) : List Value → Bool
  | [] => true
  | v :: vs => isWritableWith name v && itemsWritableWith name vs

/-- Whether the integers in some members are short enough, and their names are of some kind. -/
def membersWritableWith (name : Scalar → Bool) : List (Scalar × Value) → Bool
  | [] => true
  | (n, v) :: ms => name n && isWritableWith name v && membersWritableWith name ms

end

variable [Interpreter]

/-- Whether a value has a literal: its integers are short enough, and it does not nest too deep. -/
def isWritable (v : Value) : Bool :=
  v.isWritableWith Scalar.isWritable && v.height ≤ Interpreter.quoting.depth

/-- Whether a value has a text: its integers are short enough, no name is a date or bytes, and it
does not nest too deep. -/
def isRenderable (v : Value) : Bool :=
  v.isWritableWith Scalar.isLabel && v.height ≤ Interpreter.writing.depth

end Value

/-- The fault of an integer of too many digits. -/
def Fault.IsLength (f : Fault) : Prop := f = .digitLimit

/-- The fault of a value that has no literal. -/
def Fault.IsQuoting [Interpreter] (f : Fault) : Prop :=
  f = .digitLimit ∨ f = Interpreter.quoting.fault

/-- The fault of a value that has no text. -/
def Fault.IsRendering [Interpreter] (f : Fault) : Prop :=
  f = .digitLimit ∨ (∃ kind, f = .memberName kind) ∨ f = Interpreter.writing.fault

/-! ## Writing piece by piece -/

/-- Something is written if a condition holds, and otherwise fails with a fault of some kind. -/
def WrittenIf {α : Type} (Q : Fault → Prop) (holds : Prop) (r : Except Fault α) : Prop :=
  holds ∧ (∃ a, r = .ok a) ∨ ¬ holds ∧ ∃ f, r = .error f ∧ Q f

namespace WrittenIf

variable {α β : Type} {Q Q' : Fault → Prop} {holds holds' : Prop} {r : Except Fault α}

theorem ok (h : holds) (a : α) : WrittenIf Q holds (.ok a : Except Fault α) := .inl ⟨h, a, rfl⟩

theorem error (h : ¬ holds) {f : Fault} (hf : Q f) :
    WrittenIf Q holds (.error f : Except Fault α) :=
  .inr ⟨h, f, rfl, hf⟩

theorem congr (h : WrittenIf Q holds r) (hiff : holds ↔ holds') : WrittenIf Q holds' r :=
  propext hiff ▸ h

theorem mono (h : WrittenIf Q holds r) (hQ : ∀ f, Q f → Q' f) : WrittenIf Q' holds r :=
  h.imp_right fun ⟨hnot, f, hf, hq⟩ => ⟨hnot, f, hf, hQ f hq⟩

/-- What is written piece by piece is written if all its pieces are. -/
theorem bind {g : α → Except Fault β} (hr : WrittenIf Q holds r)
    (hg : ∀ a, WrittenIf Q holds' (g a)) : WrittenIf Q (holds ∧ holds') (r >>= g) := by
  rcases hr with ⟨h, a, rfl⟩ | ⟨hnot, f, rfl, hq⟩
  · exact (hg a).congr ⟨fun h' => ⟨h, h'⟩, And.right⟩
  · exact .inr ⟨fun h => hnot h.1, f, rfl, hq⟩

theorem bind_pure {g : α → β} (hr : WrittenIf Q holds r) :
    WrittenIf Q holds (r >>= fun a => pure (g a)) := by
  have hpure (a : α) : WrittenIf Q True (pure (g a) : Except Fault β) := ok trivial (g a)
  exact (hr.bind hpure).congr (iff_of_eq (and_true _))

theorem mapM {g : α → Except Fault β} {p : α → Bool}
    (h : ∀ a, WrittenIf Q (p a = true) (g a)) (as : List α) :
    WrittenIf Q (as.all p = true) (as.mapM g) := by
  induction as with
  | nil => exact ok rfl _
  | cons a as ih =>
    rw [List.mapM_cons, List.all_cons, Bool.and_eq_true]
    exact (h a).bind fun _ => ih.bind_pure

theorem iff_of_ok (h : WrittenIf Q holds r) {a : α} (ha : r = .ok a) : holds := by
  rcases h with ⟨h, -⟩ | ⟨-, f, hf, -⟩
  · exact h
  · cases ha.symm.trans hf

theorem exists_ok (h : WrittenIf Q holds r) (hholds : holds) : ∃ a, r = .ok a := by
  rcases h with ⟨-, h⟩ | ⟨hnot, -⟩
  · exact h
  · exact absurd hholds hnot

theorem of_error (h : WrittenIf Q holds r) {f : Fault} (hf : r = .error f) : ¬ holds ∧ Q f := by
  rcases h with ⟨-, a, ha⟩ | ⟨hnot, g, hg, hq⟩
  · cases ha.symm.trans hf
  · obtain rfl : g = f := Except.error.inj (hg.symm.trans hf)
    exact ⟨hnot, hq⟩

theorem exists_error (h : WrittenIf Q holds r) (hnot : ¬ holds) : ∃ f, r = .error f ∧ Q f := by
  rcases h with ⟨hholds, -⟩ | ⟨-, h⟩
  · exact absurd hholds hnot
  · exact h

/-- If integers are the only danger, the fault is known. -/
theorem error_iff (h : WrittenIf Fault.IsLength holds r) {f : Fault} :
    r = .error f ↔ f = .digitLimit ∧ ¬ holds := by
  refine ⟨fun hf => (h.of_error hf).symm, ?_⟩
  rintro ⟨rfl, hnot⟩
  obtain ⟨g, hg, rfl⟩ := h.exists_error hnot
  exact hg

end WrittenIf

/-! ## Literals -/

theorem Literal.writtenIf_integer (n : Int) :
    WrittenIf Fault.IsLength ((Scalar.int n).isWritable = true) (integer n) := by
  unfold integer
  split
  · exact .ok (decide_eq_true ‹_›) _
  · rename_i hlong
    exact .error (fun h => hlong (of_decide_eq_true h)) rfl

theorem Scalar.writtenIf_literal (s : Scalar) :
    WrittenIf Fault.IsLength (s.isWritable = true) s.literal := by
  cases s with
  | int n => exact Literal.writtenIf_integer n
  | _ => exact .ok rfl _

namespace Value

variable [Interpreter]

theorem isWritable_scalar (s : Scalar) : (scalar s).isWritable = s.isWritable := by
  rw [isWritable, isWritableWith, height, levels, decide_eq_true (Nat.zero_le _), Bool.and_true]

theorem isWritable_iff {v : Value} : v.isWritable = true ↔
    v.isWritableWith Scalar.isWritable = true ∧ v.height ≤ Interpreter.quoting.depth := by
  rw [isWritable, Bool.and_eq_true, decide_eq_true_eq]

theorem isRenderable_iff {v : Value} : v.isRenderable = true ↔
    v.isWritableWith Scalar.isLabel = true ∧ v.height ≤ Interpreter.writing.depth := by
  rw [isRenderable, Bool.and_eq_true, decide_eq_true_eq]

mutual

theorem writtenIf_literalIn (room : Nat) : ∀ v : Value, WrittenIf Fault.IsQuoting
    (v.isWritableWith Scalar.isWritable = true ∧ v.height ≤ room) (literalIn room v)
  | .scalar s => by
    rw [literalIn, isWritableWith]
    exact (s.writtenIf_literal.mono fun _ => .inl).congr (by simp [height, levels])
  | .list xs => by
    rw [isWritableWith, height_list]
    cases room with
    | zero => exact .error (by simp) (.inr rfl)
    | succ deeper =>
      rw [literalIn, Nat.add_le_add_iff_right]
      exact (writtenIf_literalItems deeper xs).bind_pure
  | .object ms => by
    rw [isWritableWith, height_object]
    cases room with
    | zero => exact .error (by simp) (.inr rfl)
    | succ deeper =>
      rw [literalIn, Nat.add_le_add_iff_right]
      exact (writtenIf_literalMembers deeper ms).bind_pure
  | .set es => by
    rw [isWritableWith, height, levels, ite_self]
    cases room with
    | zero => exact .error (by simp) (.inr rfl)
    | succ deeper =>
      rw [literalIn]
      have hes := WrittenIf.mapM (fun s : Scalar => s.writtenIf_literal) es
      exact (hes.bind_pure.mono fun _ => .inl).congr (by simp)
  | .pair v w => by
    rw [isWritableWith, height_pair]
    cases room with
    | zero => exact .error (by simp) (.inr rfl)
    | succ deeper =>
      rw [literalIn, Nat.add_le_add_iff_right, Bool.and_eq_true, Nat.max_le, and_and_and_comm]
      exact (writtenIf_literalIn deeper v).bind fun _ => (writtenIf_literalIn deeper w).bind_pure

theorem writtenIf_literalItems (room : Nat) : ∀ xs : List Value, WrittenIf Fault.IsQuoting
    (itemsWritableWith Scalar.isWritable xs = true ∧ itemsLevels 1 xs ≤ room) (literalItems room xs)
  | [] => .ok ⟨rfl, Nat.zero_le _⟩ _
  | v :: vs => by
    rw [literalItems, itemsWritableWith, itemsLevels_cons, Bool.and_eq_true, Nat.max_le,
      and_and_and_comm]
    exact (writtenIf_literalIn room v).bind fun _ => (writtenIf_literalItems room vs).bind_pure

theorem writtenIf_literalMembers (room : Nat) : ∀ ms : List (Scalar × Value),
    WrittenIf Fault.IsQuoting
      (membersWritableWith Scalar.isWritable ms = true ∧ membersLevels 1 ms ≤ room)
      (literalMembers room ms)
  | [] => .ok ⟨rfl, Nat.zero_le _⟩ _
  | (name, v) :: ms => by
    rw [literalMembers, membersWritableWith, membersLevels_cons, Bool.and_eq_true,
      Bool.and_eq_true, Nat.max_le, and_and_and_comm, and_assoc (a := name.isWritable = true)]
    exact ((name.writtenIf_literal.mono fun _ => .inl).bind fun _ =>
      (writtenIf_literalIn room v).bind fun _ =>
        (writtenIf_literalMembers room ms).bind_pure).congr and_assoc.symm

end

theorem writtenIf_literal (v : Value) :
    WrittenIf Fault.IsQuoting (v.isWritable = true) v.literal :=
  (writtenIf_literalIn _ v).congr isWritable_iff.symm

/-- **A value has a plain text exactly if its integers are short enough and it does not nest too
deep.** -/
theorem writtenIf_plainText (v : Value) :
    WrittenIf Fault.IsQuoting (v.isWritable = true) v.plainText := by
  have hplain : WrittenIf Fault.IsQuoting (v.isWritable = true) v.plain := by
    cases v with
    | scalar s =>
      rw [isWritable_scalar]
      cases s with
      | text | moment | broken => exact .ok rfl _
      | _ => exact (Scalar.writtenIf_literal _).mono fun _ => .inl
    | _ => exact writtenIf_literal _
  exact hplain.bind_pure

end Value

/-! ## JSON -/

namespace Json

theorem writtenIf_scalar (quote : List Char → List Char) (s : Scalar) :
    WrittenIf Fault.IsLength (s.isWritable = true) (scalar quote s) := by
  cases s with
  | int n => exact Literal.writtenIf_integer n
  | _ => exact .ok rfl _

variable [Interpreter]

theorem writtenIf_label (s : Scalar) :
    WrittenIf Fault.IsRendering (s.isLabel = true) (label s) := by
  cases s with
  | moment m => exact .error (by simp [Scalar.isLabel]) (.inr (.inl ⟨_, rfl⟩))
  | bytes data => exact .error (by simp [Scalar.isLabel]) (.inr (.inl ⟨_, rfl⟩))
  | int n => exact (writtenIf_scalar id (.int n)).mono fun _ => .inl
  | _ => exact .ok rfl _

namespace Style

/-- A level is entered if it is not the deepest one. -/
theorem writtenIf_enter (depth : Nat) :
    WrittenIf Fault.IsRendering (depth < compact.deepest) (compact.enter depth) := by
  unfold enter
  split
  · exact .ok ‹_› _
  · exact .error ‹_› (.inr (.inr rfl))

/-- Some levels can be written from a depth on. -/
def Reaches (depth levels : Nat) : Prop := levels = 0 ∨ depth + levels ≤ compact.deepest

theorem reaches_succ {depth levels : Nat} :
    Reaches depth (levels + 1) ↔ depth < compact.deepest ∧ Reaches (depth + 1) levels := by
  unfold Reaches
  omega

theorem reaches_max {depth m n : Nat} :
    Reaches depth (max m n) ↔ Reaches depth m ∧ Reaches depth n := by
  unfold Reaches
  omega

mutual

theorem writtenIf_writeAt (depth : Nat) : ∀ v : Value, WrittenIf Fault.IsRendering
    (v.isWritableWith Scalar.isLabel = true ∧ Reaches depth v.height) (compact.writeAt depth v)
  | .scalar s => by
    rw [writeAt, Value.isWritableWith]
    exact ((writtenIf_scalar _ s).mono fun _ => .inl).congr (and_iff_left (.inl rfl)).symm
  | .list xs => by
    rw [writeAt, Value.isWritableWith, Value.height_list, reaches_succ, and_left_comm]
    exact (writtenIf_enter depth).bind fun _ => (writtenIf_writeItems (depth + 1) xs).bind_pure
  | .object ms => by
    rw [writeAt, Value.isWritableWith, Value.height_object, reaches_succ, and_left_comm]
    exact (writtenIf_enter depth).bind fun _ => (writtenIf_writeMembers (depth + 1) ms).bind_pure
  | .set es => by
    rw [writeAt, Value.isWritableWith, Value.height, Value.levels, ite_self, ← Nat.zero_add 1,
      reaches_succ, and_left_comm, and_iff_left (show Reaches (depth + 1) 0 from .inl rfl)]
    have hes := WrittenIf.mapM (fun s : Scalar => s.writtenIf_literal) es
    exact (writtenIf_enter depth).bind fun _ => hes.bind_pure.mono fun _ => .inl
  | .pair v w => by
    rw [writeAt, Value.isWritableWith, Value.height_pair, reaches_succ, reaches_max, and_left_comm,
      Bool.and_eq_true, and_and_and_comm]
    exact (writtenIf_enter depth).bind fun _ => (writtenIf_writeAt (depth + 1) v).bind fun _ =>
      (writtenIf_writeAt (depth + 1) w).bind_pure

theorem writtenIf_writeItems (depth : Nat) : ∀ xs : List Value, WrittenIf Fault.IsRendering
    (Value.itemsWritableWith Scalar.isLabel xs = true ∧ Reaches depth (Value.itemsLevels 1 xs))
    (compact.writeItems depth xs)
  | [] => .ok ⟨rfl, .inl rfl⟩ _
  | v :: vs => by
    rw [writeItems, Value.itemsWritableWith, Value.itemsLevels_cons, Bool.and_eq_true, reaches_max,
      and_and_and_comm]
    exact (writtenIf_writeAt depth v).bind fun _ => (writtenIf_writeItems depth vs).bind_pure

theorem writtenIf_writeMembers (depth : Nat) : ∀ ms : List (Scalar × Value),
    WrittenIf Fault.IsRendering
      (Value.membersWritableWith Scalar.isLabel ms = true ∧
        Reaches depth (Value.membersLevels 1 ms))
      (compact.writeMembers depth ms)
  | [] => .ok ⟨rfl, .inl rfl⟩ _
  | (name, v) :: ms => by
    rw [writeMembers, Value.membersWritableWith, Value.membersLevels_cons, Bool.and_eq_true,
      Bool.and_eq_true, reaches_max, and_and_and_comm, and_assoc (a := name.isLabel = true)]
    exact ((writtenIf_label name).bind fun _ => (writtenIf_writeAt depth v).bind fun _ =>
      (writtenIf_writeMembers depth ms).bind_pure).congr and_assoc.symm

end

end Style

end Json

/-- **A value has a text exactly if its integers are short enough, no name is a date or bytes, and
it does not nest too deep.** -/
theorem Value.writtenIf_asText [Interpreter] (v : Value) :
    WrittenIf Fault.IsRendering (v.isRenderable = true) v.asText := by
  unfold asText
  split
  · exact .ok (isRenderable_iff.2 ⟨rfl, Nat.zero_le _⟩) _
  · exact .ok (isRenderable_iff.2 ⟨rfl, Nat.zero_le _⟩) _
  · refine (Json.Style.writtenIf_writeAt 0 v).congr ?_
    rw [isRenderable_iff, Json.Style.Reaches, Nat.zero_add]
    exact and_congr_right fun _ => ⟨fun h => h.elim (fun h => h ▸ Nat.zero_le _) id, .inr⟩

/-! ## Long integers -/

namespace Decimal

theorem value_append_singleton (cs : List Char) (c : Char) :
    value (cs ++ [c]) = 10 * value cs + digitValue c := by
  rw [value, List.foldl_append, List.foldl_cons, List.foldl_nil, value]

theorem value_lt_pow {cs : List Char} (h : ∀ c ∈ cs, isDigit c = true) :
    value cs < 10 ^ cs.length := by
  induction cs using List.reverseRecOn with
  | nil => decide
  | append_singleton cs c ih =>
    have hvalue : value cs < 10 ^ cs.length := ih fun d hd => h d (List.mem_append_left _ hd)
    have hdigit : digitValue c < 10 := by
      have hc := h c (List.mem_append_right _ (List.mem_singleton_self c))
      simp only [isDigit, Bool.and_eq_true, decide_eq_true_eq] at hc
      have hle : c.toNat ≤ '9'.toNat := hc.2
      rw [show '9'.toNat = 57 from rfl] at hle
      simp only [digitValue]
      omega
    rw [value_append_singleton, List.length_append, List.length_singleton, Nat.pow_succ]
    omega

theorem pow_le_value {cs : List Char} (h : ∀ c ∈ cs, isDigit c = true) (hne : cs ≠ [])
    (hhead : cs.head? ≠ some '0') : 10 ^ cs.length ≤ 10 * value cs := by
  induction cs using List.reverseRecOn with
  | nil => exact absurd rfl hne
  | append_singleton cs c ih =>
    rw [value_append_singleton, List.length_append, List.length_singleton, Nat.pow_succ]
    cases cs with
    | nil =>
      have hrange := h c (List.mem_append_right _ (List.mem_singleton_self c))
      simp only [isDigit, Bool.and_eq_true, decide_eq_true_eq] at hrange
      have hlow : '0'.toNat ≤ c.toNat := hrange.1
      have hzero : '0'.toNat ≠ c.toNat := fun hc => hhead (by rw [Char.toNat_inj.1 hc]; rfl)
      have hdigit : 0 < digitValue c := by
        rw [show '0'.toNat = 48 from rfl] at hlow hzero
        rw [digitValue]
        omega
      simp only [List.length_nil, value, List.foldl_nil]
      omega
    | cons d ds =>
      have hle := ih (fun e he => h e (List.mem_append_left _ he)) (List.cons_ne_nil _ _) hhead
      omega

/-- A number below a power of ten has no more digits than its exponent says. -/
theorem length_digits_le {n k : Nat} (hk : 0 < k) (h : n < 10 ^ k) : (digits n).length ≤ k := by
  have hn := denotes_digits n
  by_cases hzero : (digits n).head? = some '0'
  · rw [hn.of_zero hzero]
    exact hk
  · have hle := pow_le_value hn.isDigit hn.ne_nil hzero
    rw [hn.value_eq] at hle
    have hlt : 10 ^ (digits n).length < 10 ^ (k + 1) := by
      rw [Nat.pow_succ]
      omega
    exact Nat.le_of_lt_succ ((Nat.pow_lt_pow_iff_right (by decide)).1 hlt)

/-- A number that a power of ten does not exceed has more digits than its exponent says. -/
theorem lt_length_digits {n k : Nat} (h : 10 ^ k ≤ n) : k < (digits n).length := by
  have hlt := value_lt_pow (denotes_digits n).isDigit
  rw [(denotes_digits n).value_eq] at hlt
  exact (Nat.pow_lt_pow_iff_right (by decide)).1 (Nat.lt_of_le_of_lt h hlt)

theorem length_digits_pow (k : Nat) : (digits (10 ^ k)).length = k + 1 := by
  have hlt := lt_length_digits (Nat.le_refl (10 ^ k))
  have hle := length_digits_le (Nat.succ_pos k)
    (Nat.pow_lt_pow_right (by decide) (Nat.lt_succ_self k))
  omega

end Decimal

theorem Scalar.isWritable_int_of_le {n : Int} (h : 10 ^ Fault.maxDigits ≤ n.natAbs) :
    (int n).isWritable = false :=
  decide_eq_false (Nat.not_le.2 (Decimal.lt_length_digits h))

end MessageRouting
