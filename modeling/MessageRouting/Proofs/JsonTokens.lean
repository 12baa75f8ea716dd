import MessageRouting.Json.Reader
import MessageRouting.Json.Writer

/-!
# Tokens of JSON

A text in quotes is read back as it was (`text_json`), and so are an integer (`number_integer`) and
the words for values. What stands after a number does not matter if it cannot go on with it
(`number_append`); a comma, a bracket or a gap cannot.
-/

namespace MessageRouting

/-! ## Digits -/

namespace Decimal

theorem digitChar_spec : ∀ d < 10, isDigit (digitChar d) = true ∧ digitValue (digitChar d) = d ∧
    (digitChar d = '0' → d = 0) := by
  decide

theorem ne_of_isDigit {c d : Char} (hc : isDigit c = true) (hd : isDigit d = false) : c ≠ d := by
  rintro rfl
  rw [hc] at hd
  cases hd

/-- Digits of a number. -/
structure Denotes (cs : List Char) (n : Nat) : Prop where
  /-- There is one. -/
  ne_nil : cs ≠ []
  /-- All are digits. -/
  isDigit : ∀ c ∈ cs, Decimal.isDigit c = true
  /-- They denote the number. -/
  value_eq : value cs = n
  /-- Only the number zero begins with one. -/
  of_zero : cs.head? = some '0' → cs = ['0']

theorem denotes_digit {d : Nat} (h : d < 10) : Denotes [digitChar d] d where
  ne_nil := List.cons_ne_nil _ _
  isDigit c hc := by
    rw [List.mem_singleton.1 hc]
    exact (digitChar_spec d h).1
  value_eq := by simp [value, (digitChar_spec d h).2.1]
  of_zero hzero := by rw [Option.some.inj hzero]

/-- A digit more. -/
theorem Denotes.append_digit {cs : List Char} {n d : Nat} (h : Denotes cs n) (hn : n ≠ 0)
    (hd : d < 10) : Denotes (cs ++ [digitChar d]) (10 * n + d) where
  ne_nil := by simp
  isDigit c hc := by
    rcases List.mem_append.1 hc with hc | hc
    · exact h.isDigit c hc
    · rw [List.mem_singleton.1 hc]
      exact (digitChar_spec d hd).1
  value_eq := by
    have hvalue := h.value_eq
    simp only [value] at hvalue
    simp [value, List.foldl_append, hvalue, (digitChar_spec d hd).2.1]
  of_zero hzero := by
    obtain ⟨c, tail, rfl⟩ := List.exists_cons_of_ne_nil h.ne_nil
    have hvalue := h.value_eq
    rw [h.of_zero hzero] at hvalue
    exact absurd hvalue.symm hn

theorem digitsOnto_spec (fuel n : Nat) (hn : n ≤ fuel) (rest : List Char) :
    ∃ cs, digitsOnto fuel n rest = cs ++ rest ∧ Denotes cs n := by
  induction fuel generalizing n rest with
  | zero =>
    obtain rfl : n = 0 := by omega
    exact ⟨[digitChar 0], rfl, denotes_digit (by decide)⟩
  | succ fuel ih =>
    rw [digitsOnto]
    by_cases hlt : n < 10
    · exact ⟨[digitChar n], by simp [hlt], denotes_digit hlt⟩
    · obtain ⟨cs, hcs, h⟩ := ih (n / 10) (by omega) (digitChar (n % 10) :: rest)
      refine ⟨cs ++ [digitChar (n % 10)], by simp [hlt, hcs], ?_⟩
      have hdigit := h.append_digit (d := n % 10) (by omega) (by omega)
      rwa [Nat.div_add_mod] at hdigit

/-- **The digits of a number denote it.** -/
theorem denotes_digits (n : Nat) : Denotes (digits n) n := by
  obtain ⟨cs, hcs, h⟩ := digitsOnto_spec n n (Nat.le_refl n) []
  rwa [digits, hcs, List.append_nil]

end Decimal

namespace Json.Reader

open Text.Quoted

/-! ## Texts -/

theorem hex4?_hex : ∀ n < 32, ∃ a b c d, hex 4 n = [a, b, c, d] ∧ hex4? a b c d = some n := by
  have h : ∀ n < 32, hex4? (hexDigit (n / 16 / 16 / 16 % 16)) (hexDigit (n / 16 / 16 % 16))
      (hexDigit (n / 16 % 16)) (hexDigit (n % 16)) = some n := by decide
  exact fun n hn => ⟨_, _, _, _, rfl, h n hn⟩

/-- A control character is read back. -/
theorem escape_unicodeEscape (f : Dialect) (start place : List Char) {n : Nat} (hn : n < 32)
    (d : Char) (rest : List Char) :
    escape f start place ('u' :: hex 4 n ++ d :: rest) = .ok (n, d :: rest) := by
  obtain ⟨x, y, z, w, hhex, hvalue⟩ := hex4?_hex n hn
  have hsurrogate : ¬ (0xD800 ≤ n ∧ n < 0xE000) := by omega
  simp [hhex, escape, hvalue, codeUnit, hsurrogate]

/-- A character inside a text is read back. -/
theorem text_jsonChar (f : Dialect) (start : List Char) (fuel : Nat) (c d : Char)
    (rest : List Char) :
    text f start (fuel + 1) (jsonChar c ++ d :: rest) =
      (text f start fuel (d :: rest)).map fun x => (c.toNat :: x.1, x.2) := by
  unfold jsonChar
  split
  all_goals try rfl
  rename_i hquote hslash _ _ _ _ _
  split
  · rename_i hcontrol
    rw [unicodeEscape, List.cons_append, text, escape_unicodeEscape f _ _ hcontrol]
  · rename_i hplain
    rw [List.singleton_append, text]
    · simp [hplain]
    all_goals assumption

/-- **A text in quotes is read back as it was.** -/
theorem text_json (f : Dialect) (start cs rest : List Char) {fuel : Nat} (h : cs.length < fuel) :
    text f start fuel (cs.flatMap jsonChar ++ '"' :: rest) =
      .ok (cs.map Char.toNat, rest) := by
  induction cs generalizing fuel with
  | nil =>
    obtain ⟨fuel, rfl⟩ : ∃ n, fuel = n + 1 := ⟨fuel - 1, by omega⟩
    rfl
  | cons c cs ih =>
    obtain ⟨fuel, rfl⟩ : ∃ n, fuel = n + 1 := ⟨fuel - 1, by omega⟩
    have hrest : ∃ d tail, cs.flatMap jsonChar ++ '"' :: rest = d :: tail :=
      List.exists_cons_of_ne_nil (by simp)
    obtain ⟨d, tail, htail⟩ := hrest
    rw [List.flatMap_cons, List.append_assoc, htail, text_jsonChar, ← htail,
      ih (Nat.lt_of_succ_lt_succ h)]
    rfl

/-! ## Numbers -/

/-- A text that cannot go on with a number. -/
def Ends (rest : List Char) : Prop :=
  ∀ c, rest.head? = some c → Decimal.isDigit c = false ∧ c ≠ '.' ∧ c ≠ 'e' ∧ c ≠ 'E'

theorem ends_nil : Ends [] := fun _ h => nomatch h

theorem ends_cons {c : Char} (rest : List Char)
    (h : (!Decimal.isDigit c && c ≠ '.' && c ≠ 'e' && c ≠ 'E') = true) : Ends (c :: rest) := by
  intro d hd
  obtain rfl : c = d := Option.some.inj hd
  simpa [and_assoc] using h

theorem span_append {cs rest : List Char} (hrest : Ends rest) :
    Decimal.span (cs ++ rest) = ((Decimal.span cs).1, (Decimal.span cs).2 ++ rest) := by
  induction cs with
  | nil =>
    cases rest with
    | nil => rfl
    | cons c rest => simp [Decimal.span, (hrest c rfl).1]
  | cons c cs ih =>
    simp only [Decimal.span, Prod.mk.injEq] at ih
    cases hc : Decimal.isDigit c <;> simp [Decimal.span, hc, ih]

theorem span_digits {cs : List Char} (h : ∀ c ∈ cs, Decimal.isDigit c = true) :
    Decimal.span cs = (cs, []) := by
  induction cs with
  | nil => rfl
  | cons c cs ih =>
    have hspan := ih fun d hd => h d (List.mem_cons_of_mem _ hd)
    simp only [Decimal.span, Prod.mk.injEq] at hspan
    simp [Decimal.span, h c List.mem_cons_self, hspan]

theorem wholePart_of_head {cs : List Char} (h : cs.head? ≠ some '0') :
    wholePart cs = Decimal.span cs := by
  unfold wholePart
  split
  · exact absurd rfl h
  · rfl

theorem wholePart_append {cs rest : List Char} (hrest : Ends rest) :
    wholePart (cs ++ rest) = ((wholePart cs).1, (wholePart cs).2 ++ rest) := by
  by_cases hzero : cs.head? = some '0'
  · obtain ⟨cs, rfl⟩ := List.head?_eq_some_iff.1 hzero
    rfl
  · have hzero' : (cs ++ rest).head? ≠ some '0' := by
      cases cs with
      | nil =>
        intro hc
        have hdigit := (hrest '0' hc).1
        cases hdigit
      | cons c cs => exact hzero
    rw [wholePart_of_head hzero, wholePart_of_head hzero', span_append hrest]

theorem fractionPart_append {cs rest : List Char} (hrest : Ends rest) :
    fractionPart (cs ++ rest) = ((fractionPart cs).1, (fractionPart cs).2 ++ rest) := by
  cases cs with
  | nil =>
    cases rest with
    | nil => rfl
    | cons c rest => simp [fractionPart, (hrest c rfl).2.1]
  | cons c cs =>
    by_cases hc : c = '.'
    · subst hc
      rw [List.cons_append, fractionPart, fractionPart, span_append hrest]
      rcases Decimal.span cs with ⟨_ | ⟨d, ds⟩, after⟩ <;> rfl
    · simp [fractionPart, hc]

theorem exponentPart_eq_none {rest : List Char} (hrest : Ends rest) :
    Decimal.exponentPart rest = none := by
  cases rest with
  | nil => rfl
  | cons c rest =>
    obtain ⟨-, -, he, hE⟩ := hrest c rfl
    simp [Decimal.exponentPart, he, hE]

/-- A sign, if there is one, and what follows it. -/
def sign : List Char → Bool × List Char
  | '-' :: rest => (true, rest)
  | '+' :: rest => (false, rest)
  | cs => (false, cs)

theorem sign_append {cs : List Char} (h : cs ≠ []) (rest : List Char) :
    sign (cs ++ rest) = ((sign cs).1, (sign cs).2 ++ rest) := by
  obtain ⟨c, cs, rfl⟩ := List.exists_cons_of_ne_nil h
  by_cases hminus : c = '-'
  · subst hminus
    rfl
  · by_cases hplus : c = '+'
    · subst hplus
      rfl
    · simp [sign, hminus, hplus]

/-- An exponent after its letter. -/
def exponentDigits (cs : List Char) : Option (Int × List Char) :=
  match Decimal.span (sign cs).2 with
  | ([], _) => none
  | (ds, rest) => some (Decimal.signedValue (sign cs).1 ds, rest)

theorem exponentPart_eq_some_iff {cs : List Char} {x : Int × List Char} :
    Decimal.exponentPart cs = some x ↔
      ∃ c tail, cs = c :: tail ∧ (c = 'e' ∨ c = 'E') ∧ exponentDigits tail = some x := by
  have hletter : ∀ c tail, c = 'e' ∨ c = 'E' →
      Decimal.exponentPart (c :: tail) = exponentDigits tail := by
    rintro c tail (rfl | rfl) <;> rfl
  constructor
  · intro h
    cases cs with
    | nil => cases h
    | cons c tail =>
      have hc : c = 'e' ∨ c = 'E' := by
        rcases Classical.em (c = 'e' ∨ c = 'E') with hc | hc
        · exact hc
        · simp [Decimal.exponentPart, not_or.1 hc] at h
      exact ⟨c, tail, rfl, hc, (hletter c tail hc) ▸ h⟩
  · rintro ⟨c, tail, rfl, hc, h⟩
    rwa [hletter c tail hc]

theorem exponentPart_append {cs rest : List Char} (hrest : Ends rest) {e : Int}
    (h : Decimal.exponentPart cs = some (e, [])) :
    Decimal.exponentPart (cs ++ rest) = some (e, rest) := by
  obtain ⟨c, tail, rfl, hc, htail⟩ := exponentPart_eq_some_iff.1 h
  refine exponentPart_eq_some_iff.2 ⟨c, tail ++ rest, rfl, hc, ?_⟩
  have hne : tail ≠ [] := by
    rintro rfl
    cases htail
  unfold exponentDigits at htail ⊢
  rw [sign_append hne, span_append hrest]
  rcases hspan : Decimal.span (sign tail).2 with ⟨_ | ⟨d, ds⟩, after⟩
  · simp [hspan] at htail
  · simp only [hspan, Option.some.injEq, Prod.mk.injEq] at htail
    obtain ⟨rfl, rfl⟩ := htail
    rfl

/-- A number after its sign. -/
def magnitude (f : Dialect) (cs : List Char) (negative : Bool) (digits : List Char) :
    Result Scalar :=
  match wholePart digits with
  | ([], _) => fail .value cs
  | (whole, rest) =>
    let (fraction, rest) := fractionPart rest
    match Decimal.exponentPart rest with
    | some (e, rest) => .ok (.float (Decimal.Numeral.mk negative whole fraction e).toBinary64, rest)
    | none =>
      if fraction = [] then
        if Fault.maxDigits < integerLength f negative whole then fail (.digits whole.length) cs
        else .ok (.int (Decimal.signedValue negative whole), rest)
      else .ok (.float (Decimal.Numeral.mk negative whole fraction 0).toBinary64, rest)

variable {f : Dialect}

theorem number_minus (cs : List Char) : number f ('-' :: cs) = magnitude f ('-' :: cs) true cs :=
  rfl

theorem number_of_head {cs : List Char} (h : cs.head? ≠ some '-') :
    number f cs = magnitude f cs false cs := by
  unfold number
  split
  rename_i hsign
  split at hsign
  · exact absurd rfl h
  · cases hsign
    rfl

theorem magnitude_append {cs ds rest : List Char} {negative : Bool} {s : Scalar}
    (h : magnitude f cs negative ds = .ok (s, [])) (hrest : Ends rest) :
    magnitude f (cs ++ rest) negative (ds ++ rest) = .ok (s, rest) := by
  unfold magnitude at h ⊢
  rw [wholePart_append hrest]
  rcases hwhole : wholePart ds with ⟨_ | ⟨d, whole⟩, after⟩
  · simp [hwhole, fail] at h
  · simp only [hwhole] at h ⊢
    rw [fractionPart_append hrest]
    rcases hfraction : fractionPart after with ⟨fraction, after'⟩
    simp only [hfraction] at h ⊢
    rcases hexponent : Decimal.exponentPart after' with _ | ⟨e, last⟩
    · simp only [hexponent] at h
      have hlast : after' = [] := by
        split at h
        · split at h
          · cases h
          · exact congrArg Prod.snd (Except.ok.inj h)
        · exact congrArg Prod.snd (Except.ok.inj h)
      subst hlast
      rw [List.nil_append, exponentPart_eq_none hrest]
      split at h
      · split at h
        · cases h
        · cases h
          rename_i hempty hlength
          rw [if_pos hempty, if_neg hlength]
      · cases h
        rename_i hfilled
        rw [if_neg hfilled]
    · simp only [hexponent, Except.ok.injEq, Prod.mk.injEq] at h
      obtain ⟨rfl, rfl⟩ := h
      rw [exponentPart_append hrest hexponent]

/-- **What stands after a number does not matter** if it cannot go on with it. -/
theorem number_append {cs rest : List Char} {s : Scalar} (h : number f cs = .ok (s, []))
    (hrest : Ends rest) : number f (cs ++ rest) = .ok (s, rest) := by
  cases cs with
  | nil => cases h
  | cons c cs =>
    by_cases hc : c = '-'
    · subst hc
      rw [List.cons_append, number_minus]
      exact @magnitude_append f ('-' :: cs) cs rest true s h hrest
    · have hhead : ∀ tail : List Char, (c :: tail).head? ≠ some '-' := by simp [hc]
      rw [number_of_head (hhead _)] at h
      rw [List.cons_append, number_of_head (hhead _), ← List.cons_append]
      exact magnitude_append h hrest

theorem wholePart_digits (n : Nat) : wholePart (Decimal.digits n) = (Decimal.digits n, []) := by
  have hn := Decimal.denotes_digits n
  by_cases hzero : (Decimal.digits n).head? = some '0'
  · rw [hn.of_zero hzero]
    rfl
  · rw [wholePart_of_head hzero, span_digits hn.isDigit]

theorem magnitude_digits (cs : List Char) (negative : Bool) {n : Nat}
    (h : integerLength f negative (Decimal.digits n) ≤ Fault.maxDigits) :
    magnitude f cs negative (Decimal.digits n) =
      .ok (.int (if negative then -(n : Int) else n), []) := by
  have hn := Decimal.denotes_digits n
  obtain ⟨d, ds, hds⟩ := List.exists_cons_of_ne_nil hn.ne_nil
  rw [magnitude, wholePart_digits]
  simp only [hds, fractionPart, Decimal.exponentPart]
  rw [← hds, if_pos trivial, if_neg (Nat.not_lt.2 h), Decimal.signedValue, hn.value_eq]

/-- Whether a reader takes an integer: it does not have too many digits, which its sign can count
to. -/
def Takes (f : Dialect) (n : Int) : Prop :=
  integerLength f (n < 0) (Decimal.digits n.natAbs) ≤ Fault.maxDigits

/-- **An integer is read back** by a reader that takes it. -/
theorem number_integer {n : Int} (h : Takes f n) :
    number f (Decimal.integer n) = .ok (.int n, []) := by
  unfold Takes at h
  unfold Decimal.integer
  split
  · rename_i hneg
    rw [decide_eq_true hneg] at h
    rw [number_minus, magnitude_digits _ true h, if_pos rfl]
    congr 3
    omega
  · rename_i hpos
    rw [decide_eq_false hpos] at h
    have hn := Decimal.denotes_digits n.natAbs
    have hhead : (Decimal.digits n.natAbs).head? ≠ some '-' := fun hminus =>
      absurd (hn.isDigit '-' (List.mem_of_mem_head? hminus)) (by decide)
    rw [number_of_head hhead, magnitude_digits _ false h, if_neg (by decide)]
    congr 3
    omega

/-! ## Words and numbers -/

theorem isDigit_of_wholePart {cs ds rest : List Char} {d : Char}
    (h : wholePart cs = (d :: ds, rest)) :
    ∃ tail, cs = d :: tail ∧ Decimal.isDigit d = true := by
  unfold wholePart at h
  split at h
  · cases h
    exact ⟨_, rfl, rfl⟩
  · cases cs with
    | nil => cases h
    | cons c cs =>
      rw [Decimal.span, Prod.mk.injEq, List.takeWhile_cons] at h
      obtain ⟨h, -⟩ := h
      split at h
      · cases h
        exact ⟨cs, rfl, ‹_›⟩
      · cases h

theorem isDigit_of_magnitude {cs ds : List Char} {negative : Bool} {x : Scalar × List Char}
    (h : magnitude f cs negative ds = .ok x) :
    ∃ d tail, ds = d :: tail ∧ Decimal.isDigit d = true := by
  unfold magnitude at h
  split at h
  · cases h
  · rename_i whole rest hfilled hwhole
    obtain ⟨d, whole, rfl⟩ := List.exists_cons_of_ne_nil hfilled
    exact ⟨d, isDigit_of_wholePart hwhole⟩

/-- A number begins with a digit, or with a minus sign and a digit. -/
theorem head_of_number {cs : List Char} {x : Scalar × List Char} (h : number f cs = .ok x) :
    ∃ d tail, Decimal.isDigit d = true ∧ (cs = d :: tail ∨ cs = '-' :: d :: tail) := by
  by_cases hminus : cs.head? = some '-'
  · obtain ⟨tail, rfl⟩ := List.head?_eq_some_iff.1 hminus
    obtain ⟨d, tail, rfl, hd⟩ := isDigit_of_magnitude h
    exact ⟨d, tail, hd, .inr rfl⟩
  · rw [number_of_head hminus] at h
    obtain ⟨d, tail, rfl, hd⟩ := isDigit_of_magnitude h
    exact ⟨d, tail, hd, .inl rfl⟩

/-- What begins like a number is no word. -/
theorem plain_eq_number {cs tail : List Char} {d : Char} (hd : Decimal.isDigit d = true)
    (hcs : cs = d :: tail ∨ cs = '-' :: d :: tail) : plain f cs = number f cs := by
  have hne : ∀ w, Decimal.isDigit w = false → ¬ w = d := fun w hw =>
    (Decimal.ne_of_isDigit hd hw).symm
  have hwords : ∀ x ∈ words, after? x.1.toList cs = none := by
    rcases hcs with rfl | rfl
    · simp [words, after?, hne 'n' rfl, hne 't' rfl, hne 'f' rfl, hne 'N' rfl, hne 'I' rfl,
        hne '-' rfl]
    · simp [words, after?, hne 'I' rfl]
  rw [plain, List.findSome?_eq_none_iff.2 fun x hx =>
    congrArg (Option.map (x.2, ·)) (hwords x hx)]

/-- A number is no word. -/
theorem plain_of_number {cs rest : List Char} {s : Scalar} (h : number f cs = .ok (s, []))
    (hrest : Ends rest) : plain f (cs ++ rest) = .ok (s, rest) := by
  obtain ⟨d, tail, hd, htext⟩ := head_of_number h
  have hbegins : cs ++ rest = d :: (tail ++ rest) ∨ cs ++ rest = '-' :: d :: (tail ++ rest) :=
    htext.imp (fun hcs => by rw [hcs]; rfl) (fun hcs => by rw [hcs]; rfl)
  rw [plain_eq_number hd hbegins]
  exact number_append h hrest

/-- A text that stands for a scalar wherever it stands, if nothing behind it goes on with it. -/
structure Spells (f : Dialect) (cs : List Char) (s : Scalar) : Prop where
  /-- It begins like a word or a number. -/
  head : ∃ c tail, cs = c :: tail ∧ isGap c = false ∧ c ≠ ']' ∧ c ≠ '\uFEFF' ∧ c ≠ '"' ∧
    c ≠ '[' ∧ c ≠ '\x7b'
  /-- It is read as the scalar. -/
  plain_append : ∀ rest, Ends rest → plain f (cs ++ rest) = .ok (s, rest)

theorem spells_null : Spells f "null".toList .null :=
  ⟨⟨'n', _, rfl, by decide⟩, fun _ _ => rfl⟩

theorem spells_bool (b : Bool) : Spells f (if b then "true" else "false").toList (.bool b) := by
  cases b
  · exact ⟨⟨'f', _, rfl, by decide⟩, fun _ _ => rfl⟩
  · exact ⟨⟨'t', _, rfl, by decide⟩, fun _ _ => rfl⟩

/-- What begins like a number begins no text, list or object. -/
theorem head_of_isDigit {cs tail : List Char} {d : Char} (hd : Decimal.isDigit d = true)
    (hcs : cs = d :: tail ∨ cs = '-' :: d :: tail) :
    ∃ c tail, cs = c :: tail ∧ isGap c = false ∧ c ≠ ']' ∧ c ≠ '\uFEFF' ∧ c ≠ '"' ∧ c ≠ '[' ∧
      c ≠ '\x7b' := by
  rcases hcs with rfl | rfl
  · have hne : ∀ w, Decimal.isDigit w = false → d ≠ w := fun w => Decimal.ne_of_isDigit hd
    have hgap : isGap d = false := by
      simp [isGap, hne ' ' rfl, hne '\t' rfl, hne '\n' rfl, hne '\r' rfl]
    exact ⟨d, tail, rfl, hgap, hne _ rfl, hne _ rfl, hne _ rfl, hne _ rfl, hne _ rfl⟩
  · exact ⟨'-', d :: tail, rfl, by decide⟩

/-- A number stands for itself. -/
theorem spells_of_number {cs : List Char} {s : Scalar} (h : number f cs = .ok (s, [])) :
    Spells f cs s := by
  refine ⟨?_, fun rest hrest => plain_of_number h hrest⟩
  obtain ⟨d, tail, hd, hcs⟩ := head_of_number h
  exact head_of_isDigit hd hcs

/-- The digits of an integer, after its sign. -/
theorem exists_integer (n : Int) : ∃ d tail, Decimal.isDigit d = true ∧
    (Decimal.integer n = d :: tail ∨ Decimal.integer n = '-' :: d :: tail) := by
  have hn := Decimal.denotes_digits n.natAbs
  obtain ⟨d, ds, hds⟩ := List.exists_cons_of_ne_nil hn.ne_nil
  refine ⟨d, ds, hn.isDigit d (hds ▸ List.mem_cons_self), ?_⟩
  rw [← hds, Decimal.integer]
  split
  · exact .inr rfl
  · exact .inl rfl

/-- An integer that a reader does not take is refused. -/
theorem exists_number_error {n : Int} (h : ¬ Takes f n) {rest : List Char} (hrest : Ends rest) :
    ∃ e, number f (Decimal.integer n ++ rest) = .error e := by
  have hn := Decimal.denotes_digits n.natAbs
  obtain ⟨d, ds, hds⟩ := List.exists_cons_of_ne_nil hn.ne_nil
  have hfraction : fractionPart rest = ([], rest) := @fractionPart_append [] rest hrest
  have hmagnitude : ∀ cs negative,
      Fault.maxDigits < integerLength f negative (Decimal.digits n.natAbs) →
      ∃ e, magnitude f cs negative (Decimal.digits n.natAbs ++ rest) = .error e := by
    intro cs negative hlength
    rw [magnitude, wholePart_append hrest, wholePart_digits]
    simp only [hds, List.nil_append, hfraction, exponentPart_eq_none hrest]
    rw [← hds, if_pos trivial, if_pos hlength]
    exact ⟨_, rfl⟩
  have hlength := Nat.not_le.1 h
  unfold Decimal.integer
  split
  · rename_i hneg
    exact hmagnitude _ true (decide_eq_true hneg ▸ hlength)
  · rename_i hpos
    have hhead : (Decimal.digits n.natAbs ++ rest).head? ≠ some '-' := by
      rw [hds, List.cons_append, List.head?_cons, ne_eq, Option.some_inj]
      exact Decimal.ne_of_isDigit (hn.isDigit d (hds ▸ List.mem_cons_self)) (by decide)
    rw [number_of_head hhead]
    exact hmagnitude _ false (decide_eq_false hpos ▸ hlength)

theorem spells_integer {n : Int} (h : Takes f n) : Spells f (Decimal.integer n) (.int n) :=
  spells_of_number (number_integer h)

end Json.Reader

end MessageRouting
