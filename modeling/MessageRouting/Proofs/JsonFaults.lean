import Mathlib.Data.List.TakeWhile
import MessageRouting.Proofs.JsonTokens

/-!
# Faults of JSON texts

A reader of JSON gives up at a bracket or brace if too many are open already, and at an integer of
too many digits. Both can be seen in the text: it opens more containers than may be inside each
other, or it has a run of that many digits (`read_error`). What a part of the reader leaves is the
end of its text, and what it fails with is explained by the text (`Accounts`). All this is about
dialects in which every container takes a level and signs do not count (`Dialect.Plain`).
-/

namespace MessageRouting.Json

open Reader

/-! ## What can be seen in a text -/

/-- How many brackets and braces a text opens. -/
def openings (cs : List Char) : Nat := cs.countP fun c => c = '[' || c = '\x7b'

/-- A text with some number of digits in a row. -/
def HasRun (n : Nat) (cs : List Char) : Prop :=
  ∃ ds, ds <:+: cs ∧ ds.length = n ∧ ∀ d ∈ ds, Decimal.isDigit d = true

/-- What a failure says about a text in which some more containers can be opened. -/
def Cause.Explained (depth : Nat) (cs : List Char) : Cause → Prop
  | .depth _ => depth < openings cs
  | .digits n => Fault.maxDigits < n ∧ HasRun n cs
  | _ => True

/-- Every container takes a level, and signs do not count towards the digits. -/
structure Dialect.Plain (f : Dialect) : Prop where
  /-- Empty containers take a level too. -/
  bareLevels_eq : f.bareLevels = 1
  /-- Signs do not count. -/
  countsSign_eq : f.countsSign = false

theorem plain_open [Interpreter] : Dialect.open.Plain := ⟨rfl, rfl⟩

variable {depth : Nat} {cs cs' : List Char}

theorem openings_le_of_suffix (h : cs <:+ cs') : openings cs ≤ openings cs' :=
  h.sublist.countP_le

theorem openings_cons {c : Char} (hc : c = '[' ∨ c = '\x7b') (cs : List Char) :
    openings (c :: cs) = openings cs + 1 := by
  rcases hc with rfl | rfl <;> simp [openings]

theorem Cause.Explained.mono {c : Cause} (h : c.Explained depth cs) (hcs : cs <:+ cs') :
    c.Explained depth cs' := by
  cases c with
  | depth isList => exact Nat.lt_of_lt_of_le h (openings_le_of_suffix hcs)
  | digits n =>
    obtain ⟨hlong, ds, hds, hlength, hdigits⟩ := h
    exact ⟨hlong, ds, hds.trans hcs.isInfix, hlength, hdigits⟩
  | value | name | colon | comma | openText | control | escape | hexEscape | surrogate | extra
  | mark => trivial

namespace Reader

/-- A part of a text is read, and the end of the text is left; or a failure that the text
explains. -/
def Accounts {α : Type} (depth : Nat) (cs : List Char) : Result α → Prop
  | .ok (_, rest) => rest <:+ cs
  | .error e => e.cause.Explained depth cs

variable {α β : Type} {r : Result α}

namespace Accounts

theorem mono (h : Accounts depth cs r) (hcs : cs <:+ cs') : Accounts depth cs' r := by
  rcases r with e | ⟨a, rest⟩
  · exact Cause.Explained.mono h hcs
  · exact h.trans hcs

theorem map (h : Accounts depth cs r) (g : α → β) :
    Accounts depth cs (r.map fun (a, rest) => (g a, rest)) := by
  rcases r with e | ⟨a, rest⟩ <;> exact h

/-- No container can be opened, but one is. -/
theorem opening {c : Char} (hc : c = '[' ∨ c = '\x7b') (isList : Bool) (cs rest : List Char) :
    Accounts 0 (c :: cs) (fail (.depth isList) rest : Result α) := by
  change 0 < openings (c :: cs)
  rw [openings_cons hc]
  exact Nat.succ_pos _

/-- Behind an opening bracket or brace one container less can be opened. -/
theorem inside {c : Char} (hc : c = '[' ∨ c = '\x7b') (h : Accounts depth cs r) (hcs : cs <:+ cs') :
    Accounts (depth + 1) (c :: cs') r := by
  have hcount := openings_cons hc cs'
  have h' := h.mono hcs
  rcases r with e | ⟨a, rest⟩
  · obtain ⟨cause, rest⟩ := e
    cases cause with
    | depth isList =>
      have hless : depth < openings cs' := h'
      change depth + 1 < openings (c :: cs')
      omega
    | digits n =>
      have hrun : (Cause.digits n).Explained (depth + 1) cs' := h'
      exact hrun.mono (List.suffix_cons c cs')
    | value | name | colon | comma | openText | control | escape | hexEscape | surrogate | extra
    | mark => trivial
  · exact List.IsSuffix.trans h' (List.suffix_cons c cs')

end Accounts

theorem skip_suffix (cs : List Char) : skip cs <:+ cs := List.dropWhile_suffix _

/-! ## Texts -/

theorem lowSurrogate?_suffix {n : Nat} {rest : List Char} (h : lowSurrogate? cs = some (n, rest)) :
    rest <:+ cs := by
  unfold lowSurrogate? at h
  split at h
  · rename_i a b c d after
    split at h
    · split at h
      · obtain ⟨-, rfl⟩ := Prod.mk.inj (Option.some.inj h)
        exact ⟨['\\', 'u', a, b, c, d], rfl⟩
      · cases h
    · cases h
  · cases h

theorem accounts_codeUnit (f : Dialect) (n : Nat) (place : List Char) :
    Accounts depth cs (codeUnit f n place cs) := by
  unfold codeUnit
  split
  · split
    · rename_i hlow
      split at hlow
      · exact lowSurrogate?_suffix hlow
      · cases hlow
    · split
      · trivial
      · exact List.suffix_rfl
  · exact List.suffix_rfl

theorem accounts_escape (f : Dialect) (start place : List Char) (cs : List Char) :
    Accounts depth cs (escape f start place cs) := by
  unfold escape
  split
  · trivial
  · split
    · rename_i a b c d e rest
      split
      · exact (accounts_codeUnit f _ place).mono ⟨['u', a, b, c, d], rfl⟩
      · trivial
    · trivial
  · split
    · exact List.suffix_cons _ _
    · trivial

theorem accounts_text (f : Dialect) (start : List Char) (fuel : Nat) (cs : List Char) :
    Accounts depth cs (text f start fuel cs) := by
  induction fuel generalizing cs with
  | zero => trivial
  | succ fuel ih =>
    rw [text.eq_def]
    dsimp only
    split
    · trivial
    · exact List.suffix_cons _ _
    · rename_i rest
      have hescape : Accounts depth rest (escape f start ('\\' :: rest) rest) :=
        accounts_escape f start _ rest
      split
      · rename_i e he
        rw [he] at hescape
        exact hescape.mono (List.suffix_cons _ _)
      · rename_i n after he
        rw [he] at hescape
        exact ((ih after).map (n :: ·)).mono (hescape.trans (List.suffix_cons _ _))
    · rename_i c rest _ _
      split
      · trivial
      · exact ((ih rest).map (c.toNat :: ·)).mono (List.suffix_cons _ _)

/-! ## Numbers and words -/

theorem wholePart_spec {whole rest : List Char} (h : wholePart cs = (whole, rest)) :
    whole ++ rest = cs ∧ ∀ d ∈ whole, Decimal.isDigit d = true := by
  unfold wholePart at h
  split at h
  · obtain ⟨rfl, rfl⟩ := Prod.mk.inj h
    exact ⟨rfl, by simp; decide⟩
  · obtain ⟨rfl, rfl⟩ := Prod.mk.inj h
    exact ⟨List.takeWhile_append_dropWhile, fun d hd => List.mem_takeWhile_imp hd⟩

theorem span_suffix {ds rest : List Char} (h : Decimal.span cs = (ds, rest)) : rest <:+ cs := by
  obtain ⟨-, rfl⟩ := Prod.mk.inj h
  exact List.dropWhile_suffix _

theorem fractionPart_suffix (cs : List Char) : (fractionPart cs).2 <:+ cs := by
  unfold fractionPart
  split
  · split
    · exact List.suffix_rfl
    · rename_i hspan
      exact (span_suffix hspan).trans (List.suffix_cons _ _)
  · exact List.suffix_rfl

theorem exponentPart_suffix {e : Int} {rest : List Char}
    (h : Decimal.exponentPart cs = some (e, rest)) : rest <:+ cs := by
  obtain ⟨c, tail, rfl, -, htail⟩ := exponentPart_eq_some_iff.1 h
  have hsign : (sign tail).2 <:+ tail := by
    unfold sign
    split
    · exact List.suffix_cons _ _
    · exact List.suffix_cons _ _
    · exact List.suffix_rfl
  unfold exponentDigits at htail
  split at htail
  · cases htail
  · rename_i hspan
    obtain ⟨-, rfl⟩ := Prod.mk.inj (Option.some.inj htail)
    exact (span_suffix hspan).trans (hsign.trans (List.suffix_cons _ _))

theorem accounts_magnitude {f : Dialect} (hf : f.Plain) (negative : Bool) {digits : List Char}
    (hdigits : digits <:+ cs) : Accounts depth cs (magnitude f cs negative digits) := by
  unfold magnitude
  split
  · trivial
  · rename_i whole rest _ hwhole
    obtain ⟨happend, hall⟩ := wholePart_spec hwhole
    have hrest : rest <:+ cs := List.IsSuffix.trans ⟨whole, happend⟩ hdigits
    have hfraction := (fractionPart_suffix rest).trans hrest
    dsimp only
    split
    · rename_i hexponent
      exact (exponentPart_suffix hexponent).trans hfraction
    · split
      · split
        · rename_i hlong
          rw [integerLength, hf.countsSign_eq, Bool.and_false, if_neg Bool.false_ne_true] at hlong
          refine ⟨hlong, whole, ?_, rfl, hall⟩
          exact List.IsInfix.trans ⟨[], rest, happend⟩ hdigits.isInfix
        · exact hfraction
      · exact hfraction

theorem accounts_number {f : Dialect} (hf : f.Plain) (cs : List Char) :
    Accounts depth cs (number f cs) := by
  by_cases hminus : cs.head? = some '-'
  · obtain ⟨digits, rfl⟩ := List.head?_eq_some_iff.1 hminus
    rw [number_minus]
    exact accounts_magnitude hf true (List.suffix_cons _ _)
  · rw [number_of_head hminus]
    exact accounts_magnitude hf false List.suffix_rfl

theorem after?_suffix {ws rest : List Char} (h : after? ws cs = some rest) : rest <:+ cs := by
  induction ws generalizing cs with
  | nil => exact Option.some.inj h ▸ List.suffix_rfl
  | cons w ws ih =>
    cases cs with
    | nil => cases h
    | cons c cs =>
      rw [after?] at h
      split at h
      · exact (ih h).trans (List.suffix_cons _ _)
      · cases h

theorem accounts_plain {f : Dialect} (hf : f.Plain) (cs : List Char) :
    Accounts depth cs (plain f cs) := by
  unfold plain
  split
  · rename_i found hfound
    obtain ⟨w, -, hw⟩ := List.exists_of_findSome?_eq_some hfound
    obtain ⟨rest, hrest, rfl⟩ := Option.map_eq_some_iff.1 hw
    exact after?_suffix hrest
  · exact accounts_number hf cs

/-! ## Values -/

/-- After a character that has to come next the end of the text is left. -/
theorem expect_suffix {c : Char} {cause : Cause} {rest : List Char}
    (h : expect c cause cs = .ok rest) : rest <:+ cs := by
  unfold expect at h
  split at h
  · rename_i d after hskip
    split at h
    · obtain rfl := Except.ok.inj h
      exact (hskip ▸ List.suffix_cons _ _ : _ <:+ skip cs).trans (skip_suffix cs)
    · cases h
  · cases h

theorem expect_error {c : Char} {cause : Cause} {e : Failure} (h : expect c cause cs = .error e) :
    e.cause = cause := by
  unfold expect at h
  split at h
  · split at h
    · cases h
    · exact congrArg Failure.cause (Except.error.inj h).symm
  · exact congrArg Failure.cause (Except.error.inj h).symm

/-- Values, items and members, read with some fuel. -/
structure Accounted (f : Dialect) (fuel : Nat) : Prop where
  /-- A value. -/
  value : ∀ depth cs, Accounts depth cs (value f fuel depth cs)
  /-- Items. -/
  items : ∀ depth cs, Accounts depth cs (items f fuel depth cs)
  /-- Members. -/
  members : ∀ depth found cs, Accounts depth cs (members f fuel depth found cs)

namespace Accounted

variable {f : Dialect} {fuel : Nat}

theorem levelsTaken_eq (hf : f.Plain) (closing : Char) (rest : List Char) :
    levelsTaken f closing rest = 1 := by
  rw [levelsTaken, hf.bareLevels_eq, ite_self]

theorem value_succ (hf : f.Plain) (h : Accounted f fuel) (depth : Nat) (cs : List Char) :
    Accounts depth cs (Reader.value f (fuel + 1) depth cs) := by
  rw [Reader.value.eq_def]
  dsimp only
  split
  · exact ((accounts_text f _ _ _).map fun codes => Value.scalar (Scalar.ofCodes codes)).mono
      (List.suffix_cons _ _)
  · rename_i rest
    have hskip := skip_suffix rest
    rw [levelsTaken_eq hf]
    cases depth with
    | zero => exact .opening (.inl rfl) true rest _
    | succ depth =>
      rw [if_neg (by omega)]
      split
      · rename_i hclosed
        exact (hclosed ▸ List.suffix_cons _ _ : _ <:+ skip rest).trans
          (hskip.trans (List.suffix_cons _ _))
      · exact ((h.items _ _).map _).inside (.inl rfl) hskip
  · rename_i rest
    have hskip := skip_suffix rest
    rw [levelsTaken_eq hf]
    cases depth with
    | zero => exact .opening (.inr rfl) false rest _
    | succ depth =>
      rw [if_neg (by omega)]
      split
      · rename_i hclosed
        exact (hclosed ▸ List.suffix_cons _ _ : _ <:+ skip rest).trans
          (hskip.trans (List.suffix_cons _ _))
      · exact ((h.members _ _ _).map _).inside (.inr rfl) hskip
  · exact (accounts_plain hf cs).map _

theorem items_succ (h : Accounted f fuel) (depth : Nat) (cs : List Char) :
    Accounts depth cs (Reader.items f (fuel + 1) depth cs) := by
  have hvalue := h.value depth cs
  rw [Reader.items]
  split
  · rename_i e he
    rwa [he] at hvalue
  · rename_i v rest hv
    rw [hv] at hvalue
    have hskip : skip rest <:+ cs := (skip_suffix rest).trans hvalue
    split
    · rename_i hend
      exact (hend ▸ List.suffix_cons _ _ : _ <:+ skip rest).trans hskip
    · rename_i after hcomma
      have hafter : skip after <:+ cs := (skip_suffix after).trans
        ((hcomma ▸ List.suffix_cons _ _ : _ <:+ skip rest).trans hskip)
      exact ((h.items depth (skip after)).map _).mono hafter
    · trivial

theorem members_succ (h : Accounted f fuel) (depth : Nat) (found : List (Scalar × Value))
    (cs : List Char) : Accounts depth cs (Reader.members f (fuel + 1) depth found cs) := by
  rw [Reader.members.eq_def]
  dsimp only
  split
  · rename_i afterQuote
    have hname : Accounts depth ('"' :: afterQuote)
        (text f ('"' :: afterQuote) ('"' :: afterQuote).length afterQuote) :=
      (accounts_text f _ _ afterQuote).mono (List.suffix_cons '"' afterQuote)
    split
    · rename_i e he
      rwa [he] at hname
    · rename_i name rest hrest
      rw [hrest] at hname
      split
      · rename_i e he
        change e.cause.Explained depth _
        rw [expect_error he]
        trivial
      · rename_i after hafter
        have hafter' : skip after <:+ '"' :: afterQuote :=
          (skip_suffix after).trans ((expect_suffix hafter).trans hname)
        have hvalue := (h.value depth (skip after)).mono hafter'
        split
        · rename_i e he
          rwa [he] at hvalue
        · rename_i v rest' hv
          rw [hv] at hvalue
          have hskip : skip rest' <:+ '"' :: afterQuote := (skip_suffix rest').trans hvalue
          split
          · rename_i hend
            exact (hend ▸ List.suffix_cons _ _ : _ <:+ skip rest').trans hskip
          · rename_i more hcomma
            have hmore : skip more <:+ '"' :: afterQuote := (skip_suffix more).trans
              ((hcomma ▸ List.suffix_cons _ _ : _ <:+ skip rest').trans hskip)
            exact (h.members depth _ (skip more)).mono hmore
          · trivial
  · trivial

end Accounted

theorem accounted {f : Dialect} (hf : f.Plain) (fuel : Nat) : Accounted f fuel := by
  induction fuel with
  | zero => exact ⟨fun _ _ => trivial, fun _ _ => trivial, fun _ _ _ => trivial⟩
  | succ fuel ih => exact ⟨ih.value_succ hf, ih.items_succ, ih.members_succ⟩

end Reader

/-- **A text that nests too deep or has too long an integer** shows it: it opens more containers
than may be inside each other, or has a run of that many digits. -/
theorem read_error {f : Dialect} (hf : f.Plain) {cs : List Char} {e : Failure}
    (h : f.read cs = .error e) : e.cause.Explained f.maxDepth cs := by
  unfold Dialect.read at h
  split at h
  · obtain rfl := Except.error.inj h
    trivial
  · have hvalue := (Reader.accounted hf (cs.length + 1)).value f.maxDepth (Reader.skip cs)
    split at h
    · rename_i d hd
      rw [hd] at hvalue
      obtain rfl := Except.error.inj h
      exact hvalue.mono (Reader.skip_suffix cs)
    · split at h
      · cases h
      · obtain rfl := Except.error.inj h
        trivial

end MessageRouting.Json
