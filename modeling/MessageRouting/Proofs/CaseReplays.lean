import MessageRouting.Proofs.Literals
import MessageRouting.Proofs.Readings
import MessageRouting.Proofs.Run
import MessageRouting.Expression.Table
import MessageRouting.Simulation

/-!
# Replayed cases

A case that expects what a run gave is passed when it is run again, and it is not passed as soon as
one of its expectations differs (`replays_exactly`). An expectation is met if each of its parts is
(`mismatches_eq_ok_nil_iff`): the rule always counts, the destination and the payload only if they
are given, and a payload that is given is met only by a transform that was applied. That a payload
is the same as itself takes two things: no NaN occurs in it, and no object has a name twice
(`same_self_iff`). A payload that nests deeper than a comparison goes leaves the case without an
outcome, and so does one that differs and cannot be written, since it is reported with its literal
(`exists_unreported_iff`).
-/

namespace MessageRouting

/-! ## Values that are the same as themselves -/

theorem Moment.same_self (m : Moment) : m.same m = true := by
  rcases m with d | ⟨d, t, _ | o⟩ <;> simp [same]

theorem Binary64.compare?_self_iff {x : Binary64} :
    x.compare? x = some .eq ↔ x.isNaN = false := by
  rw [compare?_eq_iff, isNaN_eq_isNone]
  cases x.number? <;> simp

namespace Scalar

theorem sameName_refl (s : Scalar) : s.sameName s = true := by
  cases s with
  | float x =>
    cases h : x.isNaN with
    | true => simp [sameName, h]
    | false => simp only [sameName, Binary64.compare?_self_iff.2 h, decide_true, Bool.true_or]
  | moment m => exact m.same_self
  | null => rfl
  | bool | int | text | bytes | broken => simp [sameName]

/-- A scalar is the same as itself unless it is a NaN. -/
theorem same_self_iff {s : Scalar} : s.same s = true ↔ s.isNaN = false := by
  cases s with
  | float x => rw [same, decide_eq_true_eq, Binary64.compare?_self_iff, isNaN]
  | moment m => simp [same, isNaN, m.same_self]
  | null => simp [same, isNaN]
  | bool | int | text | bytes | broken => simp [same, isNaN]

end Scalar

namespace Value

variable {xs : List Value} {ms : List (Scalar × Value)}

mutual

/-- Whether no object in a value has a name twice. -/
def isNamedOnce : Value → Bool
  | .scalar _ => true
  | .list xs => itemsNamedOnce xs
  | .object ms => decide (ms.Pairwise fun m n => m.1.sameName n.1 = false) && membersNamedOnce ms
  | .set _ => true
  | .pair v w => isNamedOnce v && isNamedOnce w

/-- Whether this holds of all items. -/
def itemsNamedOnce : List Value → Bool
  | [] => true
  | v :: vs => isNamedOnce v && itemsNamedOnce vs

/-- Whether this holds of what all members hold. -/
def membersNamedOnce : List (Scalar × Value) → Bool
  | [] => true
  | (_, v) :: ms => isNamedOnce v && membersNamedOnce ms

end

theorem isNamedOnce_list :
    (list xs).isNamedOnce = true ↔ ∀ v ∈ xs, v.isNamedOnce = true := by
  rw [isNamedOnce]
  induction xs with
  | nil => simp [itemsNamedOnce]
  | cons v vs ih => simp [itemsNamedOnce, ih]

theorem isNamedOnce_object : (object ms).isNamedOnce = true ↔
    ms.Pairwise (fun m n => m.1.sameName n.1 = false) ∧ ∀ m ∈ ms, m.2.isNamedOnce = true := by
  rw [isNamedOnce, Bool.and_eq_true, decide_eq_true_eq]
  refine and_congr_right' ?_
  induction ms with
  | nil => simp [membersNamedOnce]
  | cons m ms ih => rw [membersNamedOnce, Bool.and_eq_true, ih, List.forall_mem_cons]

/-- Where no name is there twice, each member is found under its name. -/
theorem memberOf?_of_mem (honce : ms.Pairwise fun m n => m.1.sameName n.1 = false)
    {m : Scalar × Value} (hm : m ∈ ms) : memberOf? ms m.1 = some m.2 := by
  induction ms with
  | nil => cases hm
  | cons n ns ih =>
    obtain ⟨hhead, htail⟩ := List.pairwise_cons.1 honce
    rw [memberOf?, List.find?_cons]
    rcases List.mem_cons.1 hm with rfl | hm
    · rw [m.1.sameName_refl]
      rfl
    · rw [hhead m hm]
      exact ih htail hm

theorem sameElements_refl (es : List Scalar) : sameElements es es = true := by
  have hself : ∀ e ∈ es, (es.any fun f => f.sameName e) = true :=
    fun e he => List.any_eq_true.2 ⟨e, he, e.sameName_refl⟩
  rw [sameElements, List.all_eq_true.2 hself, Bool.true_and]

theorem namesWithin_refl (ms : List (Scalar × Value)) : namesWithin ms ms = true :=
  List.all_eq_true.2 fun m hm => List.any_eq_true.2 ⟨m, hm, m.1.sameName_refl⟩

theorem alikeItems_self_iff :
    alikeItems xs xs = true ↔ ∀ v ∈ xs, v.alike v = true := by
  induction xs with
  | nil => simp [alikeItems]
  | cons v vs ih => rw [alikeItems, Bool.and_eq_true, ih, List.forall_mem_cons]

theorem alikeMembers_iff {ns : List (Scalar × Value)} : alikeMembers ms ns = true ↔
    ∀ m ∈ ms, ∃ w, memberOf? ns m.1 = some w ∧ m.2.alike w = true := by
  induction ms with
  | nil => simp [alikeMembers]
  | cons m ms ih =>
    rw [alikeMembers, Bool.and_eq_true, ih, List.forall_mem_cons]
    cases memberOf? ns m.1 <;> simp

/-- A part of a pair is like itself exactly if no NaN occurs in it. -/
theorem alike_self_iff {v : Value} (h : v.isNamedOnce = true) :
    v.alike v = true ↔ v.isNaNFree = true := by
  induction v using induction_parts with
  | scalar s => rw [alike, Scalar.alike, s.sameName_refl, Bool.true_and, isNaNFree]
  | list xs ih =>
    have hitems := isNamedOnce_list.1 h
    rw [alike, alikeItems_self_iff, isNaNFree_list]
    exact forall₂_congr fun v hv => ih v hv (hitems v hv)
  | object ms ih =>
    obtain ⟨honce, hmembers⟩ := isNamedOnce_object.1 h
    rw [alike, namesWithin_refl, decide_eq_true rfl, Bool.true_and, Bool.true_and,
      alikeMembers_iff, isNaNFree_object]
    refine forall₂_congr fun m hm => ?_
    rw [memberOf?_of_mem honce hm, ← ih m hm (hmembers m hm)]
    simp
  | set es => rw [alike, sameElements_refl, isNaNFree]
  | pair v w ihv ihw =>
    rw [isNamedOnce, Bool.and_eq_true] at h
    rw [alike, isNaNFree, Bool.and_eq_true, Bool.and_eq_true, ihv h.1, ihw h.2]

/-- **A value is the same as itself** exactly if no NaN occurs in it. -/
theorem same_self_iff {v : Value} (h : v.isNamedOnce = true) :
    v.same v = true ↔ v.isNaNFree = true := by
  induction v using induction_parts with
  | scalar s => rw [same, Scalar.same_self_iff, isNaNFree, Bool.not_eq_true']
  | list xs ih =>
    have hitems := isNamedOnce_list.1 h
    rw [same, sameItems_iff, List.forall₂_same, isNaNFree_list]
    exact forall₂_congr fun v hv => ih v hv (hitems v hv)
  | object ms ih =>
    obtain ⟨honce, hmembers⟩ := isNamedOnce_object.1 h
    rw [same, namesWithin_refl, decide_eq_true rfl, Bool.true_and, Bool.true_and,
      sameMembers_iff, isNaNFree_object]
    refine forall₂_congr fun m hm => ?_
    rw [memberOf?_of_mem honce hm, ← ih m hm (hmembers m hm)]
    simp
  | set es => rw [same, sameElements_refl, isNaNFree]
  | pair v w => rw [same, ← alike, alike_self_iff h]

end Value

/-! ## Expectations -/

namespace Expectation

/-- What a result is, as an expectation. A payload is expected if a transform was applied. -/
def ofResult (r : RunResult) : Expectation where
  ruleName := r.ruleName
  destination := r.destination
  payload := if r.transformApplied = true then some r.transformed else none

/-- The difference between the rules. -/
def ruleDifference (e : Expectation) (r : RunResult) : List String :=
  if r.ruleName = e.ruleName then []
  else [difference "rule" (nameLiteral e.ruleName) (nameLiteral r.ruleName)]

/-- The difference between the destinations. -/
def destinationDifference (e : Expectation) (r : RunResult) : List String :=
  if e.destination.isNone || r.destination = e.destination then []
  else [difference "destination" (nameLiteral e.destination) (nameLiteral r.destination)]

theorem ruleDifference_eq_nil_iff {e : Expectation} {r : RunResult} :
    e.ruleDifference r = [] ↔ r.ruleName = e.ruleName := by
  simp [ruleDifference]

theorem destinationDifference_eq_nil_iff {e : Expectation} {r : RunResult} :
    e.destinationDifference r = [] ↔ ∀ d, e.destination = some d → r.destination = some d := by
  rw [destinationDifference]
  cases e.destination <;> simp

variable [Interpreter]

/-- What is expected of a result is so. -/
structure Met (e : Expectation) (r : RunResult) : Prop where
  /-- The rule is the expected one, or none was found and none is expected. -/
  ruleName_eq : r.ruleName = e.ruleName
  /-- The destination is the expected one, if one is given. -/
  destination_eq : ∀ d, e.destination = some d → r.destination = some d
  /-- A payload that is given equals what a transform made. -/
  payload_eq : ∀ v, e.payload = some v →
    r.transformApplied = true ∧ r.transformed.equals v = .ok true

/-- Why a payload that is expected cannot be compared with what a transform made, or the difference
cannot be reported. -/
inductive Unreported (v : Value) (r : RunResult) : Fault → Prop where
  /-- The two cannot be compared. -/
  | uncompared {f : Fault} (h : r.transformed.equals v = .error f) : Unreported v r f
  /-- The expected payload has no literal. -/
  | wanted {f : Fault} (hdiffers : r.transformed.equals v = .ok false) (h : v.literal = .error f) :
    Unreported v r f
  /-- What the transform made has no literal. -/
  | got {f : Fault} {cs : List Char} (hdiffers : r.transformed.equals v = .ok false)
    (hwanted : v.literal = .ok cs) (h : r.transformed.literal = .error f) : Unreported v r f

/-- The difference between the payloads. -/
def payloadDifference (e : Expectation) (r : RunResult) : Except Fault (List String) :=
  e.payload.elim (.ok []) (payloadMismatches · r)

variable {e : Expectation} {r : RunResult} {v : Value}

theorem mismatches_eq (e : Expectation) (r : RunResult) :
    e.mismatches r = (e.payloadDifference r).map fun payload =>
      e.ruleDifference r ++ e.destinationDifference r ++ payload := by
  rw [mismatches, payloadDifference]
  cases e.payload <;> rfl

/-! ### Payloads -/

/-- What is reported if a payload is expected and there is none. -/
def noTransform : String := "expected a transformed payload, but no transform was applied"

theorem payloadMismatches_of_not_applied (h : r.transformApplied = false) (v : Value) :
    payloadMismatches v r = .ok [noTransform] := by
  rw [payloadMismatches, h]
  rfl

theorem payloadMismatches_of_equals (h : r.transformApplied = true)
    (hequals : r.transformed.equals v = .ok true) : payloadMismatches v r = .ok [] := by
  rw [payloadMismatches, h, hequals]
  rfl

theorem payloadMismatches_of_uncompared (h : r.transformApplied = true) {f : Fault}
    (hequals : r.transformed.equals v = .error f) : payloadMismatches v r = .error f := by
  rw [payloadMismatches, h, hequals]
  rfl

/-- A payload that differs is reported with both literals. -/
theorem payloadMismatches_of_differs (h : r.transformApplied = true)
    (hdiffers : r.transformed.equals v = .ok false) :
    payloadMismatches v r = (do
      let wanted ← v.literal
      let got ← r.transformed.literal
      return [difference "payload" (String.ofList wanted) (String.ofList got)]) := by
  rw [payloadMismatches, h, hdiffers]
  rfl

/-- Payloads that can be written differ in one way. -/
theorem exists_payloadMismatches (h : r.transformApplied = true)
    (hdiffers : r.transformed.equals v = .ok false) (hwanted : v.isWritable = true)
    (hgot : r.transformed.isWritable = true) :
    ∃ wanted got, v.literal = .ok wanted ∧ r.transformed.literal = .ok got ∧
      payloadMismatches v r =
        .ok [difference "payload" (String.ofList wanted) (String.ofList got)] := by
  obtain ⟨wanted, hwanted⟩ := v.writtenIf_literal.exists_ok hwanted
  obtain ⟨got, hgot⟩ := r.transformed.writtenIf_literal.exists_ok hgot
  refine ⟨wanted, got, hwanted, hgot, ?_⟩
  rw [payloadMismatches_of_differs h hdiffers, hwanted, hgot]
  rfl

/-- There is no difference between payloads exactly if they are equal. -/
theorem payloadMismatches_eq_ok_nil_iff : payloadMismatches v r = .ok [] ↔
    r.transformApplied = true ∧ r.transformed.equals v = .ok true := by
  cases happlied : r.transformApplied with
  | false => simp [payloadMismatches_of_not_applied happlied]
  | true =>
    cases hequals : r.transformed.equals v with
    | error f => simp [payloadMismatches_of_uncompared happlied hequals]
    | ok b =>
      cases b with
      | true => simp [payloadMismatches_of_equals happlied hequals]
      | false =>
        rw [payloadMismatches_of_differs happlied hequals]
        cases v.literal <;> cases r.transformed.literal <;>
          simp [bind, Except.bind, pure, Except.pure]

/-- There is no report exactly for one of the reasons. -/
theorem payloadMismatches_eq_error_iff {f : Fault} : payloadMismatches v r = .error f ↔
    r.transformApplied = true ∧ Unreported v r f := by
  cases happlied : r.transformApplied with
  | false => simp [payloadMismatches_of_not_applied happlied]
  | true =>
    rw [and_iff_right rfl]
    constructor
    · intro h
      cases hequals : r.transformed.equals v with
      | error g =>
        rw [payloadMismatches_of_uncompared happlied hequals] at h
        obtain rfl : g = f := Except.error.inj h
        exact .uncompared hequals
      | ok b =>
        cases b with
        | true =>
          rw [payloadMismatches_of_equals happlied hequals] at h
          cases h
        | false =>
          rw [payloadMismatches_of_differs happlied hequals] at h
          cases hwanted : v.literal with
          | error g =>
            rw [hwanted] at h
            obtain rfl : g = f := Except.error.inj h
            exact .wanted hequals hwanted
          | ok wanted =>
            rw [hwanted] at h
            cases hgot : r.transformed.literal with
            | error g =>
              rw [hgot] at h
              obtain rfl : g = f := Except.error.inj h
              exact .got hequals hwanted hgot
            | ok got =>
              rw [hgot] at h
              cases h
    · rintro (hequals | ⟨hdiffers, hwanted⟩ | ⟨hdiffers, hwanted, hgot⟩)
      · exact payloadMismatches_of_uncompared happlied hequals
      · rw [payloadMismatches_of_differs happlied hdiffers, hwanted]
        rfl
      · rw [payloadMismatches_of_differs happlied hdiffers, hwanted, hgot]
        rfl

/-- Whether one of the reasons applies is seen from what is compared. -/
theorem exists_unreported_iff : (∃ f, Unreported v r f) ↔
    (∃ f, r.transformed.equals v = .error f) ∨
      r.transformed.equals v = .ok false ∧
        ¬ (v.isWritable = true ∧ r.transformed.isWritable = true) := by
  constructor
  · rintro ⟨f, hequals | ⟨hdiffers, hwanted⟩ | ⟨hdiffers, -, hgot⟩⟩
    · exact .inl ⟨f, hequals⟩
    · exact .inr ⟨hdiffers, fun h => (v.writtenIf_literal.of_error hwanted).1 h.1⟩
    · exact .inr ⟨hdiffers, fun h => (r.transformed.writtenIf_literal.of_error hgot).1 h.2⟩
  · rintro (⟨f, hequals⟩ | ⟨hdiffers, hnot⟩)
    · exact ⟨f, .uncompared hequals⟩
    · by_cases hv : v.isWritable = true
      · obtain ⟨cs, hcs⟩ := v.writtenIf_literal.exists_ok hv
        have hr : ¬ r.transformed.isWritable = true := fun h => hnot ⟨hv, h⟩
        obtain ⟨f, hf, -⟩ := r.transformed.writtenIf_literal.exists_error hr
        exact ⟨f, .got hdiffers hcs hf⟩
      · obtain ⟨f, hf, -⟩ := v.writtenIf_literal.exists_error hv
        exact ⟨f, .wanted hdiffers hf⟩

/-! ### All parts -/

/-- **An expectation is met exactly if there are no mismatches.** -/
theorem mismatches_eq_ok_nil_iff : e.mismatches r = .ok [] ↔ e.Met r := by
  have hparts : e.mismatches r = .ok [] ↔ e.ruleDifference r = [] ∧
      e.destinationDifference r = [] ∧ e.payloadDifference r = .ok [] := by
    rw [mismatches_eq]
    cases e.payloadDifference r <;> simp [Except.map]
  have hpayload : e.payloadDifference r = .ok [] ↔ ∀ v, e.payload = some v →
      r.transformApplied = true ∧ r.transformed.equals v = .ok true := by
    rw [payloadDifference]
    cases e.payload with
    | none => simp
    | some v => simp [payloadMismatches_eq_ok_nil_iff]
  rw [hparts, ruleDifference_eq_nil_iff, destinationDifference_eq_nil_iff, hpayload]
  exact ⟨fun ⟨hrule, hdestination, hpayload⟩ => ⟨hrule, hdestination, hpayload⟩,
    fun h => ⟨h.ruleName_eq, h.destination_eq, h.payload_eq⟩⟩

/-- There are no mismatches to tell exactly if an expected payload cannot be reported. -/
theorem mismatches_eq_error_iff {f : Fault} : e.mismatches r = .error f ↔
    ∃ v, e.payload = some v ∧ r.transformApplied = true ∧ Unreported v r f := by
  have herror : e.mismatches r = .error f ↔ e.payloadDifference r = .error f := by
    rw [mismatches_eq]
    cases e.payloadDifference r <;> simp [Except.map]
  rw [herror, payloadDifference]
  cases e.payload with
  | none => simp
  | some v => simp [payloadMismatches_eq_error_iff]

/-- A result is what was expected from it, if its payload equals itself. -/
theorem met_ofResult (h : r.transformed.equals r.transformed = .ok true) : (ofResult r).Met r where
  ruleName_eq := rfl
  destination_eq _ hd := hd
  payload_eq v hv := by
    rw [ofResult] at hv
    cases happlied : r.transformApplied with
    | false => simp [happlied] at hv
    | true =>
      obtain rfl : r.transformed = v := by simpa [happlied] using hv
      exact ⟨rfl, h⟩

/-- The payload of a result does not differ from itself. -/
theorem payloadDifference_ofResult (h : r.transformed.equals r.transformed = .ok true) :
    (ofResult r).payloadDifference r = .ok [] := by
  rw [payloadDifference]
  cases hpayload : (ofResult r).payload with
  | none => rfl
  | some v => exact payloadMismatches_eq_ok_nil_iff.2 ((met_ofResult h).payload_eq v hpayload)

/-- Where only the rule differs, that is the only mismatch. -/
theorem mismatches_withRule (h : r.transformed.equals r.transformed = .ok true)
    {n : Option String} (hn : n ≠ r.ruleName) :
    { ofResult r with ruleName := n }.mismatches r =
      .ok [difference "rule" (nameLiteral n) (nameLiteral r.ruleName)] := by
  have hdestination : (ofResult r).destinationDifference r = [] :=
    destinationDifference_eq_nil_iff.2 (met_ofResult h).destination_eq
  rw [mismatches_eq]
  -- the other two parts do not look at the rule
  change ((ofResult r).payloadDifference r).map (fun payload =>
    _ ++ (ofResult r).destinationDifference r ++ payload) = _
  rw [payloadDifference_ofResult h, hdestination, ruleDifference, if_neg hn.symm]
  rfl

/-- Where only the destination differs, that is the only mismatch. -/
theorem mismatches_withDestination (h : r.transformed.equals r.transformed = .ok true)
    {d : String} (hd : r.destination ≠ some d) :
    { ofResult r with destination := some d }.mismatches r =
      .ok [difference "destination" (nameLiteral (some d)) (nameLiteral r.destination)] := by
  have hrule : (ofResult r).ruleDifference r = [] := ruleDifference_eq_nil_iff.2 rfl
  rw [mismatches_eq]
  change ((ofResult r).payloadDifference r).map (fun payload =>
    (ofResult r).ruleDifference r ++ _ ++ payload) = _
  rw [payloadDifference_ofResult h, hrule, destinationDifference]
  simp [hd, Except.map]

/-- Where at most the payload differs, all mismatches are those of the payload. -/
theorem mismatches_withPayload (r : RunResult) (v : Value) :
    { ofResult r with payload := some v }.mismatches r = payloadMismatches v r := by
  have hrule : (ofResult r).ruleDifference r = [] := ruleDifference_eq_nil_iff.2 rfl
  have hdestination : (ofResult r).destinationDifference r = [] :=
    destinationDifference_eq_nil_iff.2 fun _ hd => hd
  rw [mismatches_eq]
  change (payloadMismatches v r).map (fun payload =>
    (ofResult r).ruleDifference r ++ (ofResult r).destinationDifference r ++ payload) = _
  rw [hrule, hdestination]
  cases payloadMismatches v r <;> rfl

end Expectation

/-! ## Cases -/

/-- A case is not passed, and there is one mismatch. -/
def CaseOutcome.FailsWith (outcome : Except CaseFault CaseOutcome) (mismatch : String) : Prop :=
  ∃ o, outcome = .ok o ∧ o.passed = false ∧ o.mismatches = [mismatch]

namespace Simulation

open Expectation CaseOutcome

section

variable [Interpreter]

/-- What a case gives when it expects this. -/
def replay (ev : Expression.Evaluator) (rules : List Rule) (c : Case) (e : Expectation)
    (s : Simulation) : Except CaseFault CaseOutcome :=
  (s.runCase ev rules { c with expected := some e }).2

variable {ev : Expression.Evaluator} {rules : List Rule} {c : Case} {s : Simulation}
  {e : Expectation} {run : Run}

/-- A case compares what the same run gives again. -/
theorem replay_eq (hrun : runOnce ev rules c.message = .ok run) (e : Expectation) :
    s.replay ev rules c e =
      ((e.mismatches run.result).map fun found =>
        CaseOutcome.mk c.name found ⟨s.made, run.result⟩).mapError .incomparable := by
  have hmade : (s.run ev rules c.message).2 = .ok ⟨s.made, run.result⟩ := by
    rw [Simulation.run, hrun]
    rfl
  rw [replay, runCase]
  change ((s.run ev rules c.message).2.mapError CaseFault.halted >>= _) = _
  rw [hmade]
  rfl

theorem failsWith_replay (hrun : runOnce ev rules c.message = .ok run) {mismatch : String}
    (h : e.mismatches run.result = .ok [mismatch]) :
    FailsWith (s.replay ev rules c e) mismatch := by
  rw [replay_eq hrun, h]
  exact ⟨_, rfl, rfl, rfl⟩

/-- What a case gives is passed exactly if what it expects is so. -/
theorem passed_replay_iff (hrun : runOnce ev rules c.message = .ok run) {o : CaseOutcome}
    (h : s.replay ev rules c e = .ok o) : o.passed = true ↔ e.Met run.result := by
  rw [replay_eq hrun] at h
  rw [← mismatches_eq_ok_nil_iff]
  cases hmismatches : e.mismatches run.result with
  | error f => simp [hmismatches, Except.map, Except.mapError] at h
  | ok found =>
    obtain rfl : _ = o := by simpa [hmismatches, Except.map, Except.mapError] using h
    simp [passed]

/-- A case gives nothing exactly if an expected payload cannot be reported. -/
theorem replay_eq_error_iff (hrun : runOnce ev rules c.message = .ok run) {f : CaseFault} :
    s.replay ev rules c e = .error f ↔ ∃ g v, f = .incomparable g ∧ e.payload = some v ∧
      run.result.transformApplied = true ∧ Unreported v run.result g := by
  have herror : s.replay ev rules c e = .error f ↔
      ∃ g, f = .incomparable g ∧ e.mismatches run.result = .error g := by
    rw [replay_eq hrun]
    cases e.mismatches run.result <;>
      simp [Except.map, Except.mapError, eq_comm (a := f)]
  rw [herror]
  refine exists_congr fun g => ?_
  rw [mismatches_eq_error_iff, exists_and_left]

/-- **A case that expects what a run gave is passed, and no other.** Run again, it is passed without
a mismatch if no NaN occurs in the payload that the transform made, and this payload nests no deeper
than a comparison goes. If the rule is changed, or the destination to another one, or if a payload
is expected though no transform was applied, it is not passed, with that one mismatch; and so if the
payload is changed to one that is not equal and both can be written. Whatever is expected, a case is
passed exactly if that is so, and it has no outcome exactly if the payloads cannot be compared, or
differ and cannot be reported. -/
theorem replays_exactly (hrun : runOnce ev rules c.message = .ok run)
    (honce : run.result.transformed.isNamedOnce = true)
    (hfree : run.result.transformed.isNaNFree = true)
    (hdeep : run.result.transformed.height ≤ Interpreter.comparing.depth)
    (hpairs : run.result.transformed.pairHeight ≤ Interpreter.ordering.depth) (s : Simulation) :
    let r := run.result
    (∃ o, s.replay ev rules c (.ofResult r) = .ok o ∧ o.passed = true ∧ o.mismatches = [] ∧
      o.recorded.result = r) ∧
    (∀ n, n ≠ r.ruleName →
      FailsWith (s.replay ev rules c { Expectation.ofResult r with ruleName := n })
        (difference "rule" (nameLiteral n) (nameLiteral r.ruleName))) ∧
    (∀ d, r.destination ≠ some d →
      FailsWith (s.replay ev rules c { Expectation.ofResult r with destination := some d })
        (difference "destination" (nameLiteral (some d)) (nameLiteral r.destination))) ∧
    (r.transformApplied = false → ∀ v,
      FailsWith (s.replay ev rules c { Expectation.ofResult r with payload := some v })
        noTransform) ∧
    (r.transformApplied = true → ∀ v, r.transformed.same v = false → v.isWritable = true →
      r.transformed.isWritable = true → ∃ wanted got, v.literal = .ok wanted ∧
        r.transformed.literal = .ok got ∧
        FailsWith (s.replay ev rules c { Expectation.ofResult r with payload := some v })
          (difference "payload" (String.ofList wanted) (String.ofList got))) ∧
    (∀ e o, s.replay ev rules c e = .ok o → (o.passed = true ↔ e.Met r)) ∧
    ∀ e f, s.replay ev rules c e = .error f ↔ ∃ g v, f = .incomparable g ∧ e.payload = some v ∧
      r.transformApplied = true ∧ Unreported v r g := by
  intro r
  have hequals (v : Value) : r.transformed.equals v = .ok (r.transformed.same v) :=
    Value.equals_eq_ok hdeep hpairs
  have hself : r.transformed.equals r.transformed = .ok true := by
    rw [hequals, (Value.same_self_iff honce).2 hfree]
  refine ⟨?_, fun n hn => ?_, fun d hd => ?_, fun happlied v => ?_, ?_, ?_, fun e f => ?_⟩
  · have hnone := mismatches_eq_ok_nil_iff.2 (met_ofResult hself)
    rw [replay_eq hrun, hnone]
    exact ⟨_, rfl, rfl, rfl, rfl⟩
  · exact failsWith_replay hrun (mismatches_withRule hself hn)
  · exact failsWith_replay hrun (mismatches_withDestination hself hd)
  · have hpayload := payloadMismatches_of_not_applied happlied v
    exact failsWith_replay hrun ((mismatches_withPayload r v).trans hpayload)
  · intro happlied v hdiffers hwanted hgot
    have hdiffers : r.transformed.equals v = .ok false := by rw [hequals, hdiffers]
    obtain ⟨wanted, got, hv, hr', hpayload⟩ :=
      exists_payloadMismatches happlied hdiffers hwanted hgot
    exact ⟨wanted, got, hv, hr',
      failsWith_replay hrun ((mismatches_withPayload r v).trans hpayload)⟩
  · exact fun e o h => passed_replay_iff hrun h
  · exact replay_eq_error_iff hrun

end

/-- A rule that hands on what the transform `.` makes of the payload. -/
def forwarding : Rule where
  name := "forwarding"
  description := none
  enabled := true
  priority := Rule.usualPriority
  conditions := []
  combination := .all
  transform := some ⟨true, "."⟩
  destination := "queue"

/-- A case with a payload, which expects nothing yet. -/
def payloadCase (v : Value) : Case := ⟨"payload", "", ⟨v, [], []⟩, none⟩

/-- A parcel with a weight, and with parts of which one is missing. -/
def parcel : Value :=
  .record [("weight", .float ⟨0x4004000000000000⟩), ("parts", .list [.int 1, .null])]

/-- An integer that cannot be written is not one. -/
theorem same_one_of_not_isWritable {n : Int} (h : (Scalar.int n).isWritable = false) :
    (Value.int 1).same (.int n) = false := by
  refine decide_eq_false fun heq => ?_
  rw [← heq] at h
  exact absurd h (by decide)

section

open scoped Interpreter.Usual

/-- An evaluator for which `.` is the payload itself. -/
def echoing : Expression.Evaluator := Expression.Table.evaluator [(".", .echoes)]

/-- A payload that can be copied is handed on. -/
theorem runOnce_forwarding {v : Value} (h : v.height ≤ 490) : ∃ trace issues log measured,
    runOnce echoing [forwarding] (payloadCase v).message =
      .ok ⟨⟨some "forwarding", some "queue", v, true, trace, issues⟩, log, measured⟩ := by
  rw [runOnce, Routing.runAlong_of_height_le _ _ _ h]
  simp [routeAlong, Routing.candidates, Routing.search, Routing.examine, forwarding,
    Combination.holds, Routing.conclude, Routing.routeOf, Routing.enabledExpression,
    Routing.finishTransformed, Routing.attempt, Routing.attemptOf, echoing,
    Expression.Table.evaluator, Expression.Table.evaluate, Expression.Table.find,
    Expression.Course.constant, Expression.Outcome.ofOutput, payloadCase]

theorem replays_exactly_parcel :
    parcel.isNamedOnce = true ∧ parcel.isNaNFree = true ∧ parcel.height ≤ 325 ∧
      parcel.pairHeight ≤ 980 ∧
      (∃ o, (start .usual).replay echoing [forwarding] (payloadCase parcel)
        ⟨some "forwarding", some "queue", some parcel⟩ = .ok o ∧ o.passed = true) ∧
      FailsWith ((start .usual).replay echoing [forwarding] (payloadCase parcel)
        ⟨none, some "queue", some parcel⟩) "expected rule None, got 'forwarding'" ∧
      ∃ wanted got, FailsWith ((start .usual).replay echoing [forwarding] (payloadCase parcel)
        ⟨some "forwarding", some "queue", some .null⟩) (difference "payload" wanted got) := by
  have honce : parcel.isNamedOnce = true := by decide
  have hfree : parcel.isNaNFree = true := by decide
  have hdeep : parcel.height ≤ 325 := by decide
  have hpairs : parcel.pairHeight ≤ 980 := by decide
  obtain ⟨trace, issues, log, measured, hrun⟩ :=
    runOnce_forwarding (Nat.le_trans hdeep (show 325 ≤ 490 by decide))
  obtain ⟨⟨o, ho, hpassed, -⟩, hrule, -, -, hpayload, -⟩ :=
    replays_exactly hrun honce hfree hdeep hpairs (start .usual)
  obtain ⟨wanted, got, -, -, hfails⟩ := hpayload rfl .null rfl (by decide)
    (show parcel.isWritable = true by decide)
  have hname := hrule none nofun
  rw [show difference "rule" (nameLiteral none) (nameLiteral (some "forwarding")) =
    "expected rule None, got 'forwarding'" by decide +kernel] at hname
  exact ⟨honce, hfree, hdeep, hpairs, ⟨o, ho, hpassed⟩, hname, _, _, hfails⟩

/-- A case that expects an integer of too many digits, and gets another payload, has no outcome. -/
theorem replay_of_not_isWritable {n : Int} (h : (Scalar.int n).isWritable = false) :
    (start .usual).replay echoing [forwarding] (payloadCase (.int 1))
      ⟨some "forwarding", some "queue", some (.int n)⟩ = .error (.incomparable .digitLimit) := by
  obtain ⟨trace, issues, log, measured, hrun⟩ := runOnce_forwarding (v := .int 1) (Nat.zero_le _)
  have hdiffers : (Value.int 1).equals (.int n) = .ok false :=
    congrArg Except.ok (same_one_of_not_isWritable h)
  have hliteral : (Value.int n).literal = .error .digitLimit :=
    (Scalar.writtenIf_literal (.int n)).error_iff.2 ⟨rfl, Bool.eq_false_iff.1 h⟩
  exact (replay_eq_error_iff hrun).2 ⟨_, _, rfl, rfl, rfl, .wanted hdiffers hliteral⟩

theorem replay_oversized :
    (Value.int 1).same (.int (10 ^ Fault.maxDigits)) = false ∧
      (start .usual).replay echoing [forwarding] (payloadCase (.int 1))
        ⟨some "forwarding", some "queue", some (.int (10 ^ Fault.maxDigits))⟩ =
          .error (.incomparable .digitLimit) := by
  have hpow (k : Nat) : 10 ^ k ≤ ((10 : Int) ^ k).natAbs :=
    Nat.le_of_eq (Int.natAbs_pow 10 k).symm
  have hlong := Scalar.isWritable_int_of_le (hpow Fault.maxDigits)
  exact ⟨same_one_of_not_isWritable hlong, replay_of_not_isWritable hlong⟩

end

end Simulation

end MessageRouting
