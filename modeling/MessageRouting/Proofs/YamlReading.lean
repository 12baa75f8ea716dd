import MessageRouting.Yaml.Lexer

/-!
# How reading YAML fails

The tokens of a text end in a fault if the text is malformed, or if it has an escape beyond the last
code point or a version of too many digits (`tokens_error`). This follows from one lemma for each
part of the lexer, which says in what ways the part can fail (`FailsOnly`).
-/

namespace MessageRouting.Yaml

variable {σ α : Type} {P : Fault → Prop}

/-- A reader fails only in certain ways. -/
def FailsOnly (P : Fault → Prop) (m : StateT σ (Except Fault) α) : Prop :=
  ∀ s f, m s = .error f → P f

namespace FailsOnly

@[grind ←] theorem pure (a : α) : FailsOnly P (Pure.pure a : StateT σ (Except Fault) α) := nofun

@[grind ←] theorem get : FailsOnly P (MonadState.get : StateT σ (Except Fault) σ) := nofun

@[grind ←] theorem set (s : σ) :
    FailsOnly P (MonadStateOf.set s : StateT σ (Except Fault) PUnit) := nofun

@[grind ←] theorem modify (g : σ → σ) :
    FailsOnly P (modify g : StateT σ (Except Fault) PUnit) := nofun

theorem throw {f : Fault} (h : P f) :
    FailsOnly P (throw f : StateT σ (Except Fault) α) := by
  rintro s g ⟨⟩
  exact h

@[grind ←] theorem bind {β : Type} {m : StateT σ (Except Fault) α}
    {k : α → StateT σ (Except Fault) β} (hm : FailsOnly P m) (hk : ∀ a, FailsOnly P (k a)) :
    FailsOnly P (m >>= k) := by
  intro s f h
  simp only [Bind.bind, StateT.bind, Except.bind] at h
  cases hs : m s with
  | error e =>
    rw [hs] at h
    obtain rfl : e = f := by simpa using h
    exact hm s e hs
  | ok x =>
    rw [hs] at h
    exact hk x.1 x.2 f h

theorem map {β : Type} {m : StateT σ (Except Fault) α} {g : α → β} (hm : FailsOnly P m) :
    FailsOnly P (g <$> m) :=
  hm.bind fun _ => .pure _

theorem ite {c : Prop} [Decidable c] {m m' : StateT σ (Except Fault) α} (hm : FailsOnly P m)
    (hm' : FailsOnly P m') : FailsOnly P (if c then m else m') := by
  split
  · exact hm
  · exact hm'

/-- What is done first on some condition. -/
theorem check {c : Prop} [Decidable c] {m : StateT σ (Except Fault) PUnit}
    {k : PUnit → StateT σ (Except Fault) α} (hm : FailsOnly P m) (hk : ∀ u, FailsOnly P (k u)) :
    FailsOnly P (if c then m >>= k else k ⟨⟩) :=
  .ite (hm.bind hk) (hk _)

/-- What is done with the result of one of two readers. -/
theorem select {β : Type} {c : Prop} [Decidable c] {m m' : StateT σ (Except Fault) α}
    {k : α → StateT σ (Except Fault) β} (hm : FailsOnly P m) (hm' : FailsOnly P m')
    (hk : ∀ a, FailsOnly P (k a)) : FailsOnly P (if c then m >>= k else m' >>= k) :=
  .ite (hm.bind hk) (hm'.bind hk)

end FailsOnly

/-! ## Tokens -/

namespace Lexer

/-- What can be wrong with a text: it is malformed, or an escape is beyond the last code point, or
the number of a version has too many digits. -/
def Lexical (f : Fault) : Prop :=
  f = .malformed ∨ (∃ code, 0x110000 ≤ code ∧ f = .codePoint code) ∨
    ∃ n, MessageRouting.Fault.maxDigits < n ∧ f = .digits n

@[grind ←] theorem failsOnly_malformed : FailsOnly Lexical (malformed : Lexes α) :=
  .throw (.inl rfl)

/-! ### Going on -/

@[grind ←] theorem failsOnly_text : FailsOnly Lexical text := by grind [text]

@[grind ←] theorem failsOnly_peek : FailsOnly Lexical peek := by grind [peek]

@[grind ←] theorem failsOnly_forward : FailsOnly Lexical forward := .modify _

@[grind ←] theorem failsOnly_take (n : Nat) : FailsOnly Lexical (take n) := by
  induction n with
  | zero => exact .pure _
  | succ n ih => grind [take]

@[grind ←] theorem failsOnly_takeWhile (p : Char → Bool) :
    FailsOnly Lexical (takeWhile p) := by
  grind [takeWhile]

@[grind ←] theorem failsOnly_skipBlanks : FailsOnly Lexical skipBlanks := by grind [skipBlanks]

@[grind ←] theorem failsOnly_skipLine : FailsOnly Lexical skipLine := by grind [skipLine]

@[grind ←] theorem failsOnly_lineBreak : FailsOnly Lexical lineBreak := by grind [lineBreak]

@[grind ←] theorem failsOnly_emit (t : Token) : FailsOnly Lexical (emit t) := by grind [emit]

@[grind ←] theorem failsOnly_budget : FailsOnly Lexical budget := by grind [budget]

/-! ### Blocks and keys -/

@[grind ←] theorem failsOnly_unwind (column : Int) :
    FailsOnly Lexical (unwind column) := by
  grind [unwind]

@[grind ←] theorem failsOnly_openBlock (column : Int) :
    FailsOnly Lexical (openBlock column) := by
  grind [openBlock]

@[grind ←] theorem failsOnly_dropStaleKeys :
    FailsOnly Lexical dropStaleKeys := by
  grind [dropStaleKeys]

@[grind ←] theorem failsOnly_dropKey : FailsOnly Lexical dropKey := by grind [dropKey]

@[grind ←] theorem failsOnly_saveKey : FailsOnly Lexical saveKey := by grind [saveKey]

@[grind ←] theorem failsOnly_allowKey (b : Bool) :
    FailsOnly Lexical (allowKey b) := by
  grind [allowKey]

/-! ### Names, tags and directives -/

@[grind ←] theorem failsOnly_name : FailsOnly Lexical name := by grind [name]

@[grind ←] theorem failsOnly_number : FailsOnly Lexical number := by
  refine (failsOnly_takeWhile _).bind fun cs => ?_
  split
  · exact failsOnly_malformed
  · split
    · rename_i hlong
      exact (FailsOnly.throw (.inr (.inr ⟨_, hlong, rfl⟩))).bind fun _ => .pure _
    · exact .pure _

@[grind ←] theorem failsOnly_handle : FailsOnly Lexical handle := by grind [handle]

@[grind ←] theorem failsOnly_anchorName : FailsOnly Lexical anchorName :=
  failsOnly_forward.bind fun _ => failsOnly_name.bind fun _ => failsOnly_text.bind fun _ =>
    .ite (.pure _) failsOnly_malformed

@[grind ←] theorem failsOnly_percentBytes (fuel : Nat) (found : ByteArray) :
    FailsOnly Lexical (percentBytes fuel found) := by
  induction fuel generalizing found with
  | zero => grind [percentBytes]
  | succ fuel ih => grind [percentBytes]

@[grind ←] theorem failsOnly_tagSuffix (fuel : Nat) (found : List Char) :
    FailsOnly Lexical (tagSuffix fuel found) := by
  induction fuel generalizing found with
  | zero => grind [tagSuffix]
  | succ fuel ih => grind [tagSuffix]

@[grind ←] theorem failsOnly_tag : FailsOnly Lexical tag := by
  have hend (t : Token) :
      FailsOnly Lexical (do if endsWord (← text) then return t else malformed) :=
    failsOnly_text.bind fun _ => .ite (.pure t) failsOnly_malformed
  refine failsOnly_text.bind fun rest => ?_
  dsimp only
  split
  · refine (failsOnly_take 2).bind fun _ => failsOnly_budget.bind fun _ =>
      (failsOnly_tagSuffix _ _).bind fun suffix => failsOnly_peek.bind fun _ => ?_
    exact .check failsOnly_malformed fun _ => failsOnly_forward.bind fun _ =>
      (FailsOnly.pure _).bind hend
  · refine .ite (failsOnly_forward.bind fun _ => (FailsOnly.pure _).bind hend) (.ite ?_ ?_)
    · exact failsOnly_handle.bind fun h => failsOnly_budget.bind fun _ =>
        (failsOnly_tagSuffix _ _).bind fun _ => (FailsOnly.pure _).bind hend
    · exact (failsOnly_take 1).bind fun h => failsOnly_budget.bind fun _ =>
        (failsOnly_tagSuffix _ _).bind fun _ => (FailsOnly.pure _).bind hend

@[grind ←] theorem failsOnly_emptyLine : FailsOnly Lexical emptyLine := by grind [emptyLine]

@[grind ←] theorem failsOnly_directive : FailsOnly Lexical directive := by
  have hend (d : Directive) : FailsOnly Lexical (do emptyLine; return d) :=
    failsOnly_emptyLine.bind fun _ => .pure d
  refine failsOnly_forward.bind fun _ => failsOnly_name.bind fun cs => failsOnly_text.bind
    fun rest => ?_
  dsimp only
  refine .check failsOnly_malformed fun _ => .ite ?_ (.ite ?_ ?_)
  · refine failsOnly_skipBlanks.bind fun _ => failsOnly_number.bind fun _ =>
      failsOnly_peek.bind fun _ => .check failsOnly_malformed fun _ => ?_
    refine failsOnly_forward.bind fun _ => failsOnly_number.bind fun _ =>
      failsOnly_text.bind fun _ => .check failsOnly_malformed fun _ => ?_
    exact (FailsOnly.pure _).bind hend
  · refine failsOnly_skipBlanks.bind fun _ => failsOnly_handle.bind fun _ =>
      failsOnly_peek.bind fun _ => .check failsOnly_malformed fun _ => ?_
    refine failsOnly_skipBlanks.bind fun _ => failsOnly_budget.bind fun _ =>
      (failsOnly_tagSuffix _ _).bind fun _ => failsOnly_text.bind fun _ => ?_
    exact .check failsOnly_malformed fun _ => (FailsOnly.pure _).bind hend
  · exact failsOnly_skipLine.bind fun _ => (FailsOnly.pure _).bind hend

/-! ### Scalars in quotes -/

@[grind ←] theorem failsOnly_quotedBreaks (fuel : Nat) : FailsOnly Lexical (quotedBreaks fuel) := by
  induction fuel with
  | zero => grind [quotedBreaks]
  | succ fuel ih => grind [quotedBreaks]

/-- Only here an escape can be beyond the last code point. -/
@[grind ←] theorem failsOnly_hexEscape (width : Nat) : FailsOnly Lexical (hexEscape width) := by
  refine failsOnly_text.bind fun rest => ?_
  dsimp only
  split
  · exact failsOnly_malformed
  · refine .check failsOnly_malformed fun _ => ?_
    split
    · rename_i hcode
      exact (FailsOnly.throw (.inr (.inl ⟨_, hcode, rfl⟩))).bind fun _ =>
        (failsOnly_take width).bind fun _ => .pure _
    · exact (failsOnly_take width).bind fun _ => .pure _

@[grind ←] theorem failsOnly_quotedEscape : FailsOnly Lexical quotedEscape := by
  refine failsOnly_forward.bind fun _ => failsOnly_text.bind fun rest => ?_
  split
  · exact failsOnly_malformed
  · split
    · exact failsOnly_forward.bind fun _ => .pure _
    · exact failsOnly_forward.bind fun _ => (failsOnly_hexEscape _).bind fun _ => .pure _
    · exact .ite (failsOnly_lineBreak.bind fun _ => failsOnly_budget.bind fun _ =>
        (failsOnly_quotedBreaks _).bind fun _ => .pure _) failsOnly_malformed

@[grind ←] theorem failsOnly_quotedSpaces : FailsOnly Lexical quotedSpaces := by
  refine (failsOnly_takeWhile _).bind fun _ => failsOnly_text.bind fun rest => ?_
  split
  · exact failsOnly_malformed
  · refine .ite ?_ (.pure _)
    exact failsOnly_lineBreak.bind fun _ => failsOnly_budget.bind fun _ =>
      (failsOnly_quotedBreaks _).bind fun _ => .ite (.pure _) (.pure _)

@[grind ←] theorem failsOnly_quotedRest (double : Bool) (fuel : Nat) :
    FailsOnly Lexical (quotedRest double fuel) := by
  induction fuel with
  | zero => grind [quotedRest]
  | succ fuel ih => grind [quotedRest]

@[grind ←] theorem failsOnly_quoted (double : Bool) :
    FailsOnly Lexical (quoted double) := by
  grind [quoted]

/-! ### Plain scalars -/

@[grind ←] theorem failsOnly_plainBreaks (fuel : Nat) (found : List Char) :
    FailsOnly Lexical (plainBreaks fuel found) := by
  induction fuel generalizing found with
  | zero => grind [plainBreaks]
  | succ fuel ih => grind [plainBreaks]

@[grind ←] theorem failsOnly_plainSpaces : FailsOnly Lexical plainSpaces := by
  refine (failsOnly_takeWhile _).bind fun _ => failsOnly_lineBreak.bind fun b => ?_
  split
  · exact .pure _
  · refine (failsOnly_allowKey true).bind fun _ => failsOnly_budget.bind fun _ =>
      (failsOnly_plainBreaks _ _).bind fun _ => ?_
    split
    · exact .pure _
    · exact .ite (.pure _) (.pure _)

@[grind ←] theorem failsOnly_plainFrom (indent : Int) (fuel : Nat) (spaces : List Char) :
    FailsOnly Lexical (plainFrom indent fuel spaces) := by
  induction fuel generalizing spaces with
  | zero => exact .pure _
  | succ fuel ih =>
    refine FailsOnly.get.bind fun s => .ite (.pure _) ?_
    split
    · exact .pure _
    · refine (failsOnly_allowKey false).bind fun _ => (failsOnly_take _).bind fun _ =>
        failsOnly_plainSpaces.bind fun _ => FailsOnly.get.bind fun _ => ?_
      exact .ite (.pure _) ((ih _).bind fun _ => .pure _)

@[grind ←] theorem failsOnly_plain : FailsOnly Lexical plain := by grind [plain]

/-! ### Block scalars -/

@[grind ←] theorem failsOnly_chompingSign :
    FailsOnly Lexical chompingSign := by
  grind [chompingSign]

@[grind ←] theorem failsOnly_indentDigit : FailsOnly Lexical indentDigit := by grind [indentDigit]

@[grind ←] theorem failsOnly_blockSigns : FailsOnly Lexical blockSigns := by
  have hend (r : Chomping × Option Nat) :
      FailsOnly Lexical (do if endsWord (← text) then return r else malformed) :=
    failsOnly_text.bind fun _ => .ite (.pure r) failsOnly_malformed
  refine failsOnly_chompingSign.bind fun c => ?_
  dsimp only
  split
  · exact failsOnly_indentDigit.bind fun _ => (FailsOnly.pure _).bind hend
  · refine failsOnly_indentDigit.bind fun n => ?_
    split
    · exact failsOnly_chompingSign.bind fun _ => (FailsOnly.pure _).bind hend
    · exact (FailsOnly.pure _).bind hend

@[grind ←] theorem failsOnly_skipToColumn (column : Nat) :
    FailsOnly Lexical (skipToColumn column) := by
  grind [skipToColumn]

@[grind ←] theorem failsOnly_blockBreaks (column : Nat) (fuel : Nat) :
    FailsOnly Lexical (blockBreaks column fuel) := by
  induction fuel with
  | zero => grind [blockBreaks]
  | succ fuel ih => grind [blockBreaks]

@[grind ←] theorem failsOnly_blockIndent (fuel : Nat) (breaks : List Char) (greatest : Nat) :
    FailsOnly Lexical (blockIndent fuel breaks greatest) := by
  induction fuel generalizing breaks greatest with
  | zero => grind [blockIndent]
  | succ fuel ih => grind [blockIndent]

@[grind ←] theorem failsOnly_blockLines (folded : Bool) (column fuel : Nat)
    (breaks last : List Char) : FailsOnly Lexical (blockLines folded column fuel breaks last) := by
  induction fuel generalizing breaks last with
  | zero => exact .pure _
  | succ fuel ih =>
    refine failsOnly_text.bind fun _ => (failsOnly_takeWhile _).bind fun _ =>
      failsOnly_lineBreak.bind fun _ => failsOnly_budget.bind fun _ =>
      (failsOnly_blockBreaks column _).bind fun _ => FailsOnly.get.bind fun _ => ?_
    exact .ite ((ih _ _).bind fun _ => .pure _) (.pure _)

@[grind ←] theorem failsOnly_block (folded : Bool) : FailsOnly Lexical (block folded) := by
  refine failsOnly_forward.bind fun _ => failsOnly_blockSigns.bind fun signs =>
    failsOnly_emptyLine.bind fun _ => FailsOnly.get.bind fun _ => ?_
  extract_lets least ending lines
  -- what follows the empty lines in front
  have hlines (x : List Char × Nat) : FailsOnly Lexical (lines x) :=
    FailsOnly.get.bind fun _ => .ite
      (failsOnly_budget.bind fun _ => (failsOnly_blockLines _ _ _ _ _).bind fun _ => .pure _)
      ((FailsOnly.pure _).bind fun _ => .pure _)
  split
  · exact failsOnly_budget.bind fun _ => (failsOnly_blockBreaks _ _).bind fun _ =>
      (FailsOnly.pure _).bind hlines
  · exact failsOnly_budget.bind fun _ => (failsOnly_blockIndent _ _ _).bind fun _ =>
      (FailsOnly.pure _).bind hlines

/-! ### All tokens -/

@[grind ←] theorem failsOnly_skipToToken (fuel : Nat) : FailsOnly Lexical (skipToToken fuel) := by
  induction fuel with
  | zero => exact .pure _
  | succ fuel ih =>
    refine failsOnly_skipBlanks.bind fun _ => failsOnly_peek.bind fun _ =>
      .check failsOnly_skipLine fun _ => failsOnly_lineBreak.bind fun _ => ?_
    split
    · exact .pure _
    · exact FailsOnly.get.bind fun _ => .check (failsOnly_allowKey true) fun _ => ih

@[grind ←] theorem failsOnly_openFlow (t : Token) :
    FailsOnly Lexical (openFlow t) := by
  grind [openFlow]

@[grind ←] theorem failsOnly_closeFlow (t : Token) :
    FailsOnly Lexical (closeFlow t) := by
  grind [closeFlow]

/-- What is done after a block has been opened, if one has to be. -/
theorem failsOnly_opening {s : Lexer} {t : Token} {m : Lexes Unit} (hm : FailsOnly Lexical m) :
    FailsOnly Lexical (do
      if s.flow = 0 then
        if !s.keyAllowed then malformed
        if ← openBlock s.column then emit t
      m) := by
  refine .ite (.check failsOnly_malformed fun _ => (failsOnly_openBlock _).bind fun _ => ?_) hm
  exact .check (failsOnly_emit t) fun _ => hm

@[grind ←] theorem failsOnly_blockEntry : FailsOnly Lexical blockEntry :=
  FailsOnly.get.bind fun _ => failsOnly_opening <| (failsOnly_allowKey true).bind fun _ =>
    failsOnly_dropKey.bind fun _ => failsOnly_forward.bind fun _ => failsOnly_emit _

@[grind ←] theorem failsOnly_explicitKey : FailsOnly Lexical explicitKey :=
  FailsOnly.get.bind fun _ => failsOnly_opening <| (failsOnly_allowKey _).bind fun _ =>
    failsOnly_dropKey.bind fun _ => failsOnly_forward.bind fun _ => failsOnly_emit _

@[grind ←] theorem failsOnly_insertAt (position : Nat) (ts : List Token) :
    FailsOnly Lexical (insertAt position ts) := by
  grind [insertAt]

@[grind ←] theorem failsOnly_valueSign : FailsOnly Lexical valueSign := by
  have hend : FailsOnly Lexical (do forward; emit .value) :=
    failsOnly_forward.bind fun _ => failsOnly_emit _
  refine FailsOnly.get.bind fun s => ?_
  dsimp only
  split
  · refine (FailsOnly.set _).bind fun _ => .ite ((failsOnly_openBlock _).bind ?_)
      ((FailsOnly.pure _).bind ?_)
    all_goals exact fun _ => (failsOnly_insertAt _ _).bind fun _ =>
      (failsOnly_allowKey false).bind fun _ => hend
  · refine failsOnly_opening ?_
    exact (failsOnly_allowKey _).bind fun _ => failsOnly_dropKey.bind fun _ => hend

@[grind ←] theorem failsOnly_leaveDocument :
    FailsOnly Lexical leaveDocument := by
  grind [leaveDocument]

@[grind ←] theorem failsOnly_blockToken (folded : Bool) :
    FailsOnly Lexical (blockToken folded) := by
  grind [blockToken]

@[grind ←] theorem failsOnly_keyStart {t : Lexes Token} (h : FailsOnly Lexical t) :
    FailsOnly Lexical (keyStart t) := by
  grind [keyStart]

@[grind ←] theorem failsOnly_token : FailsOnly Lexical token := by
  refine FailsOnly.get.bind fun s => ?_
  dsimp only
  split
  · exact failsOnly_leaveDocument
  · -- one case for each character that can begin a token
    repeat' refine FailsOnly.ite ?_ ?_
    all_goals grind

theorem failsOnly_step : FailsOnly Lexical step :=
  failsOnly_budget.bind fun _ => (failsOnly_skipToToken _).bind fun _ =>
    failsOnly_dropStaleKeys.bind fun _ => FailsOnly.get.bind fun _ =>
    (failsOnly_unwind _).bind fun _ => failsOnly_text.bind fun _ =>
    failsOnly_token.bind fun _ => .pure _

theorem all_error {fuel : Nat} {s : Lexer} {f : Fault} (h : (all fuel s).2 = some f) :
    Lexical f := by
  induction fuel generalizing s with
  | zero => cases h
  | succ fuel ih =>
    rw [all] at h
    split at h
    · exact ih h
    · cases h
    · rename_i e he
      obtain rfl : e = f := Option.some.inj h
      exact failsOnly_step _ _ he

end Lexer

/-- **The fault in a text**: it is malformed, or has an escape beyond the last code point or a
version of too many digits. -/
theorem tokens_error {cs : List Char} {f : Fault} (h : (tokens cs).2 = some f) :
    Lexer.Lexical f := by
  unfold tokens at h
  split at h
  · exact .inl (Option.some.inj h).symm
  · exact Lexer.all_error h

end MessageRouting.Yaml
