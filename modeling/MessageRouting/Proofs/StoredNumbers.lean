import Mathlib.Data.List.Basic
import MessageRouting.Proofs.JsonTokens
import MessageRouting.Store.Codec

/-!
# Stored doubles

The text of a finite double is a number of JSON: it has digits, and the first of them is no zero
unless a point follows it. So it is read back as a double (`Codec.exists_number_float`), whichever
that is. That the shortest digits of a double other than zero are not zero (`shortest_digits`)
comes from the interval of the numbers that round to it, which does not reach down to zero.
-/

namespace MessageRouting

/-! ## Shortest digits -/

namespace Decimal

namespace RoundingInterval

theorem low_pos {x : Binary64} (h : x.significand ≠ 0) : 0 < (ofBinary64 x).low := by
  have hgap : ∀ gap ≤ 2, 0 < 4 * x.significand - gap := fun gap hgap => by omega
  refine Nat.mul_pos (hgap _ ?_) (Nat.pow_pos (by decide))
  split <;> decide

variable {i : RoundingInterval}

theorem contains_zero (hlow : 0 < i.low) {d : Nat} (hd : 0 < d) : i.contains 0 d = false := by
  have hpos := Nat.mul_pos hlow hd
  unfold contains
  split
  · simp
    omega
  · simp

/-- What lies in the interval on a grid is not zero. -/
theorem onGrid?_pos (hlow : 0 < i.low) {unitNum unitDen c : Nat} (hden : 0 < unitDen)
    (h : i.onGrid? unitNum unitDen = some c) : 0 < c := by
  have hzero : i.contains (0 * unitNum) unitDen = false := by
    rw [Nat.zero_mul]
    exact contains_zero hlow hden
  have hinside : ∀ n, i.contains (n * unitNum) unitDen = true → 0 < n := fun n hn =>
    Nat.pos_of_ne_zero fun h0 => by rw [h0, hzero] at hn; cases hn
  unfold onGrid? at h
  dsimp only at h
  generalize i.center * unitDen / (i.den * unitNum) = below at h
  split at h
  · have hbelow := hinside below ‹_›
    split at h
    · exact Option.some.inj h ▸ hbelow
    · split at h
      · exact Option.some.inj h ▸ Nat.succ_pos below
      · exact Option.some.inj h ▸ Nat.add_pos_left hbelow _
  · exact Option.some.inj h ▸ hinside below ‹_›
  · exact Option.some.inj h ▸ Nat.succ_pos below
  · cases h

end RoundingInterval

theorem dropZeros_pos (fuel : Nat) {n : Nat} (h : 0 < n) : 0 < dropZeros fuel n := by
  induction fuel generalizing n with
  | zero => exact h
  | succ fuel ih =>
    rw [dropZeros]
    split
    · exact ih (by omega)
    · exact h

theorem shortestFrom_digits {i : RoundingInterval} (hlow : 0 < i.low) (top : Int)
    (count fuel : Nat) : 0 < (shortestFrom i top count fuel).digits ∨
      shortestFrom i top count fuel = ⟨0, 1⟩ := by
  induction fuel generalizing count with
  | zero =>
    rw [shortestFrom]
    rcases Nat.eq_zero_or_pos (i.center / i.den) with hzero | hpos
    · exact .inr (by rw [hzero]; rfl)
    · exact .inl hpos
  | succ fuel ih =>
    rw [shortestFrom]
    split
    · rename_i c hc
      exact .inl (dropZeros_pos 20 (RoundingInterval.onGrid?_pos hlow (Nat.pow_pos (by decide)) hc))
    · exact ih (count + 1)

/-- The shortest digits of a double other than zero are not zero, or a single one with the point
behind it. -/
theorem shortest_digits {x : Binary64} (h : x.significand ≠ 0) :
    0 < (shortest x).digits ∨ shortest x = ⟨0, 1⟩ :=
  shortestFrom_digits (RoundingInterval.low_pos h) _ 1 17

end Decimal

/-! ## Numbers with a point or an exponent -/

namespace Json.Reader

open Decimal

/-- A text that does not begin with a digit. -/
def Stops (rest : List Char) : Prop := ∀ c, rest.head? = some c → isDigit c = false

theorem stops_nil : Stops [] := fun _ h => nomatch h

theorem stops_cons {c : Char} (h : isDigit c = false) (rest : List Char) : Stops (c :: rest) :=
  fun _ hd => Option.some.inj hd ▸ h

theorem span_append_of_stops {ds rest : List Char} (h : ∀ c ∈ ds, isDigit c = true)
    (hrest : Stops rest) : span (ds ++ rest) = (ds, rest) := by
  induction ds with
  | nil =>
    cases rest with
    | nil => rfl
    | cons c rest => simp [span, hrest c rfl]
  | cons c ds ih =>
    have hspan := ih fun d hd => h d (List.mem_cons_of_mem _ hd)
    simp only [span, Prod.mk.injEq] at hspan
    simp [span, h c List.mem_cons_self, hspan]

theorem wholePart_append_of_stops {whole rest : List Char} {n : Nat} (h : Denotes whole n)
    (hrest : Stops rest) : wholePart (whole ++ rest) = (whole, rest) := by
  by_cases hzero : whole.head? = some '0'
  · rw [h.of_zero hzero]
    rfl
  · have hhead : (whole ++ rest).head? ≠ some '0' := by
      rwa [List.head?_append_of_ne_nil _ h.ne_nil]
    rw [wholePart_of_head hhead, span_append_of_stops h.isDigit hrest]

theorem fractionPart_point {ds rest : List Char} (hne : ds ≠ [])
    (h : ∀ c ∈ ds, isDigit c = true) (hrest : Stops rest) :
    fractionPart ('.' :: (ds ++ rest)) = (ds, rest) := by
  rw [fractionPart, span_append_of_stops h hrest]
  cases ds with
  | nil => exact absurd rfl hne
  | cons d ds => rfl

theorem exists_exponentPart (sign : Char) (hsign : sign = '-' ∨ sign = '+') {ds : List Char}
    (hne : ds ≠ []) (h : ∀ c ∈ ds, isDigit c = true) :
    ∃ e, exponentPart ('e' :: sign :: ds) = some (e, []) := by
  obtain ⟨d, ds, rfl⟩ := List.exists_cons_of_ne_nil hne
  rcases hsign with rfl | rfl
  · exact ⟨_, by simp only [exponentPart, span_digits h]; rfl⟩
  · exact ⟨_, by simp only [exponentPart, span_digits h]; rfl⟩

/-- Digits that every reader reads as one double, whatever stands before them. -/
def IsDouble (ds : List Char) : Prop :=
  ∀ negative, ∃ y, ∀ d cs, magnitude d cs negative ds = .ok (.float y, [])

/-- A number with a fraction or an exponent is a double. -/
theorem isDouble_append {whole tail fraction rest : List Char} {n : Nat} (hwhole : Denotes whole n)
    (htail : Stops tail) (hfraction : fractionPart tail = (fraction, rest))
    (h : fraction ≠ [] ∧ rest = [] ∨ ∃ e, exponentPart rest = some (e, [])) :
    IsDouble (whole ++ tail) := by
  intro negative
  obtain ⟨d, ds, rfl⟩ := List.exists_cons_of_ne_nil hwhole.ne_nil
  unfold magnitude
  rw [wholePart_append_of_stops hwhole htail]
  simp only [hfraction]
  rcases h with ⟨hne, rfl⟩ | ⟨e, he⟩
  · rw [exponentPart_eq_none ends_nil]
    simp only [if_neg hne]
    exact ⟨_, fun _ _ => rfl⟩
  · rw [he]
    exact ⟨_, fun _ _ => rfl⟩

theorem isDouble_point {whole fraction : List Char} {n : Nat} (hwhole : Denotes whole n)
    (hne : fraction ≠ []) (h : ∀ c ∈ fraction, isDigit c = true) :
    IsDouble (whole ++ '.' :: fraction) := by
  have hfraction := fractionPart_point hne h stops_nil
  rw [List.append_nil] at hfraction
  exact isDouble_append hwhole (stops_cons (by decide) _) hfraction (.inl ⟨hne, rfl⟩)

/-- A double with a sign is read as one. -/
theorem exists_number_of_isDouble {ds : List Char} (h : IsDouble ds) (negative : Bool) :
    ∃ y, ∀ d, number d ((if negative then ['-'] else []) ++ ds) = .ok (.float y, []) := by
  obtain ⟨y, hy⟩ := h negative
  refine ⟨y, fun d => ?_⟩
  cases negative with
  | true => exact hy d _
  | false =>
    obtain ⟨c, tail, rfl, hc⟩ := isDigit_of_magnitude (hy d ds)
    refine (number_of_head fun hminus => ?_).trans (hy d _)
    rw [Option.some.inj hminus] at hc
    cases hc

end Json.Reader

/-! ## Texts of doubles -/

namespace Decimal.Layout

open Json.Reader

variable {f : Layout} {cs : List Char} {n : Nat}

theorem denotes_of_isDigit {ds : List Char} (hne : ds ≠ []) (h : ∀ c ∈ ds, isDigit c = true)
    (hzero : ds.head? = some '0' → ds = ['0']) : Denotes ds (value ds) :=
  ⟨hne, h, rfl, hzero⟩

theorem isDigit_replicate (n : Nat) : ∀ c ∈ List.replicate n '0', isDigit c = true :=
  fun c hc => by rw [List.eq_of_mem_replicate hc]; rfl

theorem isDigit_append {ds es : List Char} (hds : ∀ c ∈ ds, isDigit c = true)
    (hes : ∀ c ∈ es, isDigit c = true) : ∀ c ∈ ds ++ es, isDigit c = true :=
  fun c hc => (List.mem_append.1 hc).elim (hds c) (hes c)

/-- Zeros behind the digits of a number, unless it is zero. -/
theorem denotes_append_zeros (h : Denotes cs n) {k : Nat} (hzero : 0 < n ∨ k = 0) :
    Denotes (cs ++ List.replicate k '0') (value (cs ++ List.replicate k '0')) := by
  refine denotes_of_isDigit (by simp [h.ne_nil])
    (isDigit_append h.isDigit (isDigit_replicate k)) fun hhead => ?_
  rw [List.head?_append_of_ne_nil _ h.ne_nil] at hhead
  have hcs := h.of_zero hhead
  have hn : n = 0 := by rw [← h.value_eq, hcs]; rfl
  rw [hcs, hzero.resolve_left (by omega)]
  rfl

/-- The first ones of several digits. -/
theorem denotes_take (h : Denotes cs n) {k : Nat} (hk : 0 < k) (hlong : k < cs.length) :
    Denotes (cs.take k) (value (cs.take k)) := by
  refine denotes_of_isDigit ?_ (fun c hc => h.isDigit c (List.mem_of_mem_take hc)) fun hhead => ?_
  · simp only [ne_eq, List.take_eq_nil_iff, h.ne_nil, or_false]
    omega
  · rw [List.head?_take, if_neg (by omega)] at hhead
    rw [h.of_zero hhead, List.length_singleton] at hlong
    omega

theorem isDouble_positional (hf : f.keepsPoint = true) (h : Denotes cs n) {point : Int}
    (hzero : 0 < n ∨ point = 1) : IsDouble (f.positional cs point) := by
  have hlength : 0 < cs.length := List.length_pos_iff.2 h.ne_nil
  have hzeroDigit : Denotes ['0'] 0 := denotes_digit (d := 0) (by decide)
  unfold positional
  split
  · exact isDouble_point hzeroDigit (by simp [h.ne_nil])
      (isDigit_append (isDigit_replicate _) h.isDigit)
  · dsimp only
    split
    · have hwhole := denotes_append_zeros h (k := point.toNat - cs.length)
        (hzero.imp_right fun hone => by omega)
      exact isDouble_point hwhole hzeroDigit.ne_nil hzeroDigit.isDigit
    · have hlong : point.toNat < cs.length := by omega
      refine isDouble_point (denotes_take h (by omega) hlong) ?_ fun c hc =>
        h.isDigit c (List.mem_of_mem_drop hc)
      simpa only [ne_eq, List.drop_eq_nil_iff, Nat.not_le] using hlong

theorem padded_ne_nil (width n : Nat) : padded width n ≠ [] := by
  simp [padded, (denotes_digits n).ne_nil]

theorem isDigit_padded (width n : Nat) : ∀ c ∈ padded width n, isDigit c = true :=
  isDigit_append (isDigit_replicate _) (denotes_digits n).isDigit

theorem isDouble_exponential (h : Denotes cs n) (point : Int) :
    IsDouble (f.exponential cs point) := by
  obtain ⟨c, ds, rfl⟩ := List.exists_cons_of_ne_nil h.ne_nil
  have hc := denotes_of_isDigit (List.cons_ne_nil c []) (by simpa using h.isDigit c (by simp))
    fun hhead => by rw [Option.some.inj hhead]
  obtain ⟨e, he⟩ := exists_exponentPart (if point - 1 < 0 then '-' else '+')
    (by split <;> simp) (padded_ne_nil f.exponentWidth _) (isDigit_padded _ (point - 1).natAbs)
  unfold exponential
  dsimp only
  generalize (if point - 1 < 0 then '-' else '+') :: padded f.exponentWidth (point - 1).natAbs =
    es at he ⊢
  have hes : Stops ('e' :: es) := stops_cons (by decide) es
  cases ds with
  | nil => exact isDouble_append hc hes rfl (.inr ⟨e, he⟩)
  | cons d ds =>
    have hfraction := fractionPart_point (List.cons_ne_nil d ds)
      (fun c hc => h.isDigit c (List.mem_cons_of_mem _ hc)) hes
    change IsDouble ([c] ++ '.' :: (d :: ds ++ 'e' :: es))
    exact isDouble_append hc (stops_cons (by decide) _) hfraction (.inr ⟨e, he⟩)

/-- The text of a finite double is read as one double by every reader. -/
theorem exists_number_render (hf : f.keepsPoint = true) {x : Binary64} (hx : x.isFinite = true) :
    ∃ y, ∀ d, number d (f.render x) = .ok (.float y, []) := by
  rw [Binary64.isFinite, decide_eq_true_eq] at hx
  have hnan : ¬ x.isNaN = true := by simp [Binary64.isNaN, hx]
  have hinfinite : ¬ x.isInfinite = true := by simp [Binary64.isInfinite, hx]
  unfold render
  rw [if_neg hnan, hf]
  dsimp only
  rw [if_neg hinfinite]
  split
  · have hzero : Denotes ['0'] 0 := denotes_digit (d := 0) (by decide)
    exact exists_number_of_isDouble (isDouble_point hzero hzero.ne_nil hzero.isDigit) _
  · rename_i hsignificand
    refine exists_number_of_isDouble ?_ _
    have hdigits := denotes_digits (shortest x).digits
    unfold magnitude
    dsimp only
    split
    · refine isDouble_positional hf hdigits ?_
      exact (shortest_digits hsignificand).imp_right fun h => by rw [h]
    · exact isDouble_exponential hdigits _

end Decimal.Layout

/-- **A finite double is stored as a number**, and read back as one double by every reader. -/
theorem Store.Codec.exists_number_float {x : Binary64} (hx : x.isFinite = true) :
    ∃ y, ∀ d, Json.Reader.number d (float x) = .ok (.float y, []) := by
  rw [float, if_pos hx]
  exact Decimal.Layout.exists_number_render rfl hx

end MessageRouting
