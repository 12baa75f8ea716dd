import Mathlib.Data.List.DropRight
import Mathlib.Data.List.Nodup
import MessageRouting.Simulation

/-!
# Histories in use

Whatever is done with a history, it keeps the results that were recorded last and not cleared since,
newest first and no more than its capacity, and it points to the one that was recorded or selected
last (`Tracks`, `history_tracks`). The kept results and the current one are separate parts of a
history and change at different times; that the current one is always kept (`Tracks.current_mem`)
rests on the fact that a result is recorded and made current at once, and that at least one result
is kept. A simulation does nothing else with its history and names its results in order
(`history_performAll`).
-/

namespace MessageRouting

namespace History

/-! ## Operations -/

/-- What is done with a history. -/
inductive Operation where
  /-- A result is recorded. -/
  | record (r : Recorded)
  /-- The result of a name is made current. -/
  | select (id : Nat)
  /-- The result of a name is looked up. -/
  | get (id : Nat)
  /-- All results are dropped. -/
  | clear

namespace Operation

/-- The result that an operation records. -/
def recorded? : Operation → Option Recorded
  | record r => some r
  | _ => none

/-- Whether an operation drops all results. -/
def isClear : Operation → Bool
  | clear => true
  | _ => false

end Operation

/-- A history after an operation, and the result that was found. -/
def perform (h : History) : Operation → History × Option Recorded
  | .record r => (h.record r, some r)
  | .select id => h.select id
  | .get id => (h, h.get? id)
  | .clear => (h.clear, none)

/-- A history after operations, one after the other. -/
def after (h : History) (ops : List Operation) : History :=
  ops.foldl (fun h op => (h.perform op).1) h

/-! ## What a history should hold -/

/-- The operations since the results were dropped for the last time. -/
def sinceClear (ops : List Operation) : List Operation := ops.rtakeWhile fun op => !op.isClear

/-- The results that were recorded and not dropped since, oldest first. -/
def pending (ops : List Operation) : List Recorded := (sinceClear ops).filterMap Operation.recorded?

/-- The results that should be kept: the latest ones, newest first. -/
def latest (capacity : Nat) (ops : List Operation) : List Recorded :=
  (pending ops).reverse.take capacity

/-- The result that an operation makes current when others went before it: the one that it records,
or the kept one that it names. -/
def chosen (capacity : Nat) (before : List Operation) : Operation → Option Recorded
  | .record r => some r
  | .select id => (latest capacity before).find? fun r => r.id = id
  | .get _ | .clear => none

/-- A result was made current by one of the operations, and since then nothing was dropped and no
other result made current. -/
def LastChosen (capacity : Nat) (ops : List Operation) (r : Recorded) : Prop :=
  ∃ before op since, ops = before ++ op :: since ∧ chosen capacity before op = some r ∧
    ∀ between op' rest, since = between ++ op' :: rest →
      op'.isClear = false ∧ chosen capacity (before ++ op :: between) op' = none

/-- What a history holds after operations. -/
structure Tracks (capacity : Nat) (ops : List Operation) (h : History) : Prop where
  /-- The latest results are kept, newest first. -/
  results : h.results = (pending ops).reverse.take capacity
  /-- As many are kept as there are, up to the capacity. -/
  length : h.results.length = min capacity (pending ops).length
  /-- No result is kept twice, nor two results of one name. -/
  nodup : (h.results.map Recorded.id).Nodup
  /-- A name leads to the kept result that it names. -/
  get : ∀ id r, h.get? id = some r ↔ r ∈ h.results ∧ r.id = id
  /-- A result that is found can be selected. -/
  select : ∀ id r, h.get? id = some r → h.select id = ({ h with current := some r }, some r)
  /-- A name leads nowhere if it names no kept result, and a selection of it changes nothing. -/
  unknown : ∀ id, (∀ r ∈ h.results, r.id ≠ id) → h.get? id = none ∧ h.select id = (h, none)
  /-- There is a current result whenever any is kept. -/
  current_eq_none_iff : h.current = none ↔ h.results = []
  /-- The current result is kept. -/
  current_mem : ∀ r, h.current = some r → r ∈ h.results
  /-- The current result is the one that was recorded or selected last. -/
  current_iff : ∀ r, h.current = some r ↔ LastChosen capacity ops r

variable {capacity : Nat} {ops : List Operation}

/-! ## One operation -/

theorem after_concat (h : History) (ops : List Operation) (op : Operation) :
    h.after (ops ++ [op]) = ((h.after ops).perform op).1 := by
  rw [after, after, List.foldl_append, List.foldl_cons, List.foldl_nil]

theorem pending_concat_clear : pending (ops ++ [.clear]) = [] := by
  rw [pending, sinceClear, List.rtakeWhile_concat_neg _ _ _ (by simp [Operation.isClear]),
    List.filterMap_nil]

theorem pending_concat {op : Operation} (h : op.isClear = false) :
    pending (ops ++ [op]) = pending ops ++ op.recorded?.toList := by
  have hkeeps : (fun op : Operation => !op.isClear) op = true := by simp [h]
  rw [pending, sinceClear,
    List.rtakeWhile_concat_pos (fun op : Operation => !op.isClear) _ _ hkeeps,
    List.filterMap_append, ← sinceClear, ← pending]
  cases hr : op.recorded? <;> simp [hr]

/-- One operation more: it makes a result current, or leaves the last choice as it was. -/
theorem lastChosen_concat {op : Operation} {r : Recorded} :
    LastChosen capacity (ops ++ [op]) r ↔ chosen capacity ops op = some r ∨
      op.isClear = false ∧ chosen capacity ops op = none ∧ LastChosen capacity ops r := by
  constructor
  · rintro ⟨before, op', since, hsplit, hchosen, hsince⟩
    rcases List.eq_nil_or_concat' since with rfl | ⟨since, last, rfl⟩
    · obtain ⟨rfl, hop⟩ := List.append_inj' hsplit rfl
      cases hop
      exact .inl hchosen
    · rw [← List.cons_append, ← List.append_assoc] at hsplit
      obtain ⟨rfl, hlast⟩ := List.append_inj' hsplit rfl
      cases hlast
      obtain ⟨hclear, hnone⟩ := hsince since op [] rfl
      refine .inr ⟨hclear, hnone, before, op', since, rfl, hchosen, fun between op'' rest heq => ?_⟩
      exact hsince between op'' (rest ++ [op]) (by rw [heq]; simp)
  · rintro (hchosen | ⟨hclear, hnone, before, op', since, rfl, hchosen, hsince⟩)
    · exact ⟨ops, op, [], rfl, hchosen, by simp⟩
    · refine ⟨before, op', since ++ [op], by simp, hchosen, fun between op'' rest heq => ?_⟩
      rcases List.eq_nil_or_concat' rest with rfl | ⟨rest, last, rfl⟩
      · obtain ⟨rfl, hlast⟩ := List.append_inj' heq rfl
        cases hlast
        exact ⟨hclear, hnone⟩
      · rw [← List.cons_append, ← List.append_assoc] at heq
        exact hsince between op'' rest (List.append_inj' heq rfl).1

/-! ## Many operations -/

variable {hpos : 0 < capacity}

theorem capacity_after (h : History) (ops : List Operation) :
    (h.after ops).capacity = h.capacity := by
  induction ops using List.reverseRecOn with
  | nil => rfl
  | append_singleton ops op ih =>
    rw [after_concat, ← ih]
    cases op with
    | select id =>
      rw [perform, select]
      split <;> rfl
    | _ => rfl

/-- What is kept are the latest results. -/
theorem results_after (hpos : 0 < capacity) (ops : List Operation) :
    ((empty capacity hpos).after ops).results = latest capacity ops := by
  induction ops using List.reverseRecOn with
  | nil => simp [after, empty, latest, pending, sinceClear]
  | append_singleton ops op ih =>
    rw [after_concat, latest]
    cases op with
    | record r =>
      have hcapacity := capacity_after (empty capacity hpos) ops
      rw [pending_concat rfl, perform, results_record, ih, hcapacity, latest]
      simp only [Operation.recorded?, Option.toList_some, List.reverse_append,
        List.reverse_singleton, List.singleton_append]
      obtain ⟨n, rfl⟩ : ∃ n, capacity = n + 1 := ⟨capacity - 1, by omega⟩
      simp [empty, List.take_take]
    | select id =>
      rw [pending_concat rfl, perform, results_select, ih, latest]
      simp [Operation.recorded?]
    | get id =>
      rw [pending_concat rfl, perform, ih, latest]
      simp [Operation.recorded?]
    | clear => rw [pending_concat_clear, perform, results_clear, List.reverse_nil, List.take_nil]

/-- What an operation makes current is what it should make current. -/
theorem current_perform (hpos : 0 < capacity) (ops : List Operation) {op : Operation}
    (hop : op.isClear = false) :
    (((empty capacity hpos).after ops).perform op).1.current =
      (chosen capacity ops op).or ((empty capacity hpos).after ops).current := by
  cases op with
  | record r => rfl
  | select id =>
    rw [chosen, perform, select, get?, results_after]
    cases (latest capacity ops).find? fun r => decide (r.id = id) <;> rfl
  | get id => rfl
  | clear => cases hop

/-- The current result is the one that was chosen last. -/
theorem current_after_iff (hpos : 0 < capacity) (ops : List Operation) (r : Recorded) :
    ((empty capacity hpos).after ops).current = some r ↔ LastChosen capacity ops r := by
  induction ops using List.reverseRecOn with
  | nil =>
    refine ⟨nofun, ?_⟩
    rintro ⟨before, op, since, h, -⟩
    cases before <;> cases h
  | append_singleton ops op ih =>
    rw [after_concat, lastChosen_concat, ← ih]
    cases hop : op.isClear with
    | true =>
      obtain rfl : op = .clear := by
        cases op <;> first | rfl | cases hop
      simp [perform, clear, chosen]
    | false =>
      rw [current_perform hpos ops hop]
      cases chosen capacity ops op <;> simp

/-- The current result is kept, and there is one whenever any result is kept. -/
theorem current_after_mem (hpos : 0 < capacity) (ops : List Operation) :
    (((empty capacity hpos).after ops).current = none ↔ latest capacity ops = []) ∧
      ∀ r, ((empty capacity hpos).after ops).current = some r → r ∈ latest capacity ops := by
  induction ops using List.reverseRecOn with
  | nil => exact ⟨by simp [after, empty, latest, pending, sinceClear], nofun⟩
  | append_singleton ops op ih =>
    rw [after_concat, ← results_after hpos, after_concat]
    cases op with
    | record r =>
      -- the newest result is kept, as there is room for one
      obtain ⟨n, hn⟩ := Nat.exists_eq_succ_of_ne_zero
        ((empty capacity hpos).after ops).capacity_pos.ne'
      simp [perform, hn]
    | select id =>
      rw [perform, results_select, results_after, select, get?, results_after]
      split
      · rename_i r hfind
        have hmem := List.mem_of_find?_eq_some hfind
        exact ⟨⟨nofun, fun hnil => by simp [hnil] at hmem⟩, fun s hs => by cases hs; exact hmem⟩
      · exact ih
    | get id =>
      rw [perform, results_after]
      exact ih
    | clear => exact ⟨⟨fun _ => rfl, fun _ => rfl⟩, nofun⟩

/-- Results of different names are kept under their names. -/
theorem get?_eq_some_iff {h : History} (hnodup : (h.results.map Recorded.id).Nodup) (id : Nat)
    (r : Recorded) : h.get? id = some r ↔ r ∈ h.results ∧ r.id = id := by
  constructor
  · intro hget
    exact ⟨List.mem_of_find?_eq_some hget, of_decide_eq_true (List.find?_some hget :)⟩
  · rintro ⟨hmem, rfl⟩
    cases hfind : h.get? r.id with
    | none => simpa using List.find?_eq_none.1 hfind r hmem
    | some s =>
      have hs : s.id = r.id := of_decide_eq_true (List.find?_some hfind :)
      rw [List.inj_on_of_nodup_map hnodup (List.mem_of_find?_eq_some hfind) hmem hs]

/-- A history from the start tracks operations that record results of different names. -/
theorem tracks_after (hpos : 0 < capacity)
    (h : ((ops.filterMap Operation.recorded?).map Recorded.id).Nodup) :
    Tracks capacity ops ((empty capacity hpos).after ops) := by
  have hresults := results_after hpos ops
  have hpending : (pending ops).Sublist (ops.filterMap Operation.recorded?) :=
    (List.rtakeWhile_suffix _ _).sublist.filterMap _
  have hnodup : ((((empty capacity hpos).after ops).results).map Recorded.id).Nodup := by
    rw [hresults, latest]
    refine ((List.take_sublist _ _).map _).nodup ?_
    rw [List.map_reverse, List.nodup_reverse]
    exact (hpending.map _).nodup h
  have hmem := current_after_mem hpos ops
  rw [← hresults] at hmem
  refine ⟨hresults, ?_, hnodup, get?_eq_some_iff hnodup, fun id r hget => ?_, fun id hid => ?_,
    hmem.1, hmem.2, current_after_iff hpos ops⟩
  · rw [hresults, latest, List.length_take, List.length_reverse]
  · rw [History.select, hget]
  · have hnone : ((empty capacity hpos).after ops).get? id = none :=
      List.find?_eq_none.2 fun r hr => by simpa using hid r hr
    exact ⟨hnone, by rw [History.select, hnone]⟩

end History

/-! ## Simulations -/

namespace Simulation

open Expression

/-- What is done with a simulation. -/
inductive Operation where
  /-- A message is routed. -/
  | run (ev : Evaluator) (rules : List Rule) (m : Message)
  /-- A case is run. -/
  | runCase (ev : Evaluator) (rules : List Rule) (c : Case)
  /-- A result is made current. -/
  | select (id : Nat)
  /-- A result is looked up. -/
  | get (id : Nat)
  /-- All results are dropped. -/
  | clear

variable [Interpreter]

/-- A simulation after an operation. -/
def perform (s : Simulation) : Operation → Simulation
  | .run ev rules m => (s.run ev rules m).1
  | .runCase ev rules c => (s.runCase ev rules c).1
  | .select id => (s.select id).1
  | .get _ => s
  | .clear => s.clear

/-- A simulation after operations, one after the other. -/
def performAll (s : Simulation) (ops : List Operation) : Simulation := ops.foldl perform s

/-- The result of a run, recorded under a name. A run that is broken off leaves none. -/
def recording (made : Nat) (answer : Except Halt Run) : List History.Operation :=
  match answer with
  | .ok r => [.record ⟨made, r.result⟩]
  | .error _ => []

namespace Operation

/-- What an operation does with the history when so many results have been made before. -/
def inHistory (made : Nat) : Operation → List History.Operation
  | run ev rules m => recording made (runOnce ev rules m)
  | runCase ev rules c => recording made (runOnce ev rules c.message)
  | select id => [.select id]
  | get id => [.get id]
  | clear => [.clear]

/-- How many results an operation makes. -/
def makes (op : Operation) : Nat := ((op.inHistory 0).filterMap History.Operation.recorded?).length

end Operation

/-- What operations do with the history. -/
def inHistory (made : Nat) : List Operation → List History.Operation
  | [] => []
  | op :: ops => op.inHistory made ++ inHistory (made + op.makes) ops

theorem run_eq (s : Simulation) (ev : Evaluator) (rules : List Rule) (m : Message) :
    (s.run ev rules m).1 = ⟨s.history.after (recording s.made (runOnce ev rules m)),
      s.made + ((recording 0 (runOnce ev rules m)).filterMap
        History.Operation.recorded?).length⟩ := by
  unfold run
  cases runOnce ev rules m <;> rfl

theorem perform_eq (s : Simulation) (op : Operation) :
    s.perform op = ⟨s.history.after (op.inHistory s.made), s.made + op.makes⟩ := by
  cases op with
  | run ev rules m => exact s.run_eq ev rules m
  | runCase ev rules c => exact s.run_eq ev rules c.message
  | _ => rfl

/-- A simulation does nothing else with its history. -/
theorem history_performAll (s : Simulation) (ops : List Operation) :
    (s.performAll ops).history = s.history.after (inHistory s.made ops) := by
  induction ops generalizing s with
  | nil => rfl
  | cons op ops ih =>
    rw [performAll, List.foldl_cons, ← performAll, ih, perform_eq, inHistory, History.after,
      History.after, History.after, List.foldl_append]

/-- What an operation records has the next name. -/
theorem recorded_inHistory_one (made : Nat) (op : Operation) :
    ((op.inHistory made).filterMap History.Operation.recorded?).map Recorded.id =
      List.range' made op.makes := by
  have hrecording (answer : Except Halt Run) :
      ((recording made answer).filterMap History.Operation.recorded?).map Recorded.id =
        List.range' made ((recording 0 answer).filterMap History.Operation.recorded?).length := by
    cases answer <;> rfl
  cases op with
  | run ev rules m => exact hrecording _
  | runCase ev rules c => exact hrecording _
  | _ => rfl

/-- The results of a simulation are numbered in order. -/
theorem exists_recorded_inHistory (made : Nat) (ops : List Operation) :
    ∃ n, ((inHistory made ops).filterMap History.Operation.recorded?).map Recorded.id =
      List.range' made n := by
  induction ops generalizing made with
  | nil => exact ⟨0, rfl⟩
  | cons op ops ih =>
    obtain ⟨n, hn⟩ := ih (made + op.makes)
    refine ⟨op.makes + n, ?_⟩
    rw [inHistory, List.filterMap_append, List.map_append, recorded_inHistory_one, hn,
      List.range'_append_1]

/-- Whether a case gives an outcome: its run is not broken off, and its result can be compared with
what was expected. -/
def givesOutcome (ev : Evaluator) (rules : List Rule) (c : Case) : Bool :=
  match runOnce ev rules c.message with
  | .ok r => (compared c ⟨0, r.result⟩).isOk
  | .error _ => false

theorem isOk_compared (c : Case) (id : Nat) (res : RunResult) :
    (compared c ⟨id, res⟩).isOk = (compared c ⟨0, res⟩).isOk := by
  unfold compared
  cases c.expected with
  | none => rfl
  | some e =>
    dsimp only
    cases e.mismatches res <;> rfl

/-- The name of its result does not matter for a case. -/
theorem isOk_runCase (s : Simulation) (ev : Evaluator) (rules : List Rule) (c : Case) :
    (s.runCase ev rules c).2.isOk = givesOutcome ev rules c := by
  unfold runCase run givesOutcome
  cases runOnce ev rules c.message with
  | error h => rfl
  | ok r => exact isOk_compared c s.made r.result

/-- Cases that are run in turn are run one by one, up to the first that gives no outcome. -/
theorem runCases_eq (ev : Evaluator) (rules : List Rule) (cs : List Case) (s : Simulation) :
    (s.runCases ev rules cs).1 = s.performAll
      ((cs.take ((cs.takeWhile (givesOutcome ev rules)).length + 1)).map
        (.runCase ev rules)) := by
  induction cs generalizing s with
  | nil => rfl
  | cons c cs ih =>
    have hgives := isOk_runCase s ev rules c
    unfold runCases
    split
    · rename_i s' f hcase
      rw [hcase] at hgives
      rw [List.takeWhile_cons_of_neg (by rw [← hgives]; exact Bool.false_ne_true)]
      simp [performAll, perform, hcase]
    · rename_i s' o hcase
      rw [hcase] at hgives
      rw [List.takeWhile_cons_of_pos (by rw [← hgives]; rfl), List.length_cons,
        List.take_succ_cons, List.map_cons, performAll, List.foldl_cons, ← performAll, perform,
        hcase]
      exact ih s'

end Simulation

namespace History

/-- Histories have every size from one on that can be counted. -/
theorem ofSize_natCast {capacity : Nat} (hpos : 0 < capacity) (shown : String) :
    ofSize capacity shown =
      if capacity ≤ maxCapacity then .ok (empty capacity hpos) else .error .sizeLimit :=
  dif_pos hpos

/-- **A history tracks what is done with it.** A history is made for every size from one on that can
be counted. After any operations that record results of different names it keeps the latest of those
recorded since the last clear, newest first, and it points to the one that was recorded or selected
last; and so does the history of a simulation, whatever is done with that. Cases that are run in
turn are run one by one, up to the first that gives no outcome. -/
theorem history_tracks [Interpreter] {capacity : Nat} (hpos : 0 < capacity) :
    (∀ shown, ofSize capacity shown =
      if capacity ≤ maxCapacity then .ok (empty capacity hpos) else .error .sizeLimit) ∧
    (∀ ops : List Operation, ((ops.filterMap Operation.recorded?).map Recorded.id).Nodup →
      Tracks capacity ops ((empty capacity hpos).after ops)) ∧
    (∀ ops : List Simulation.Operation, Tracks capacity (Simulation.inHistory 0 ops)
      ((Simulation.start (empty capacity hpos)).performAll ops).history) ∧
    ∀ ev rules cs s, (Simulation.runCases ev rules cs s).1 = s.performAll
      ((cs.take ((cs.takeWhile (Simulation.givesOutcome ev rules)).length + 1)).map
        (.runCase ev rules)) := by
  refine ⟨ofSize_natCast hpos, fun ops h => tracks_after hpos h, fun ops => ?_,
    Simulation.runCases_eq⟩
  obtain ⟨n, hn⟩ := Simulation.exists_recorded_inHistory 0 ops
  rw [Simulation.history_performAll]
  exact tracks_after hpos (by rw [hn]; exact List.nodup_range')

/-- The first of two results. -/
def early : Recorded := ⟨7, default⟩

/-- The second of two results. -/
def late : Recorded := ⟨8, default⟩

open scoped Interpreter.Usual in
/-- Where one result is kept, the second drops the first, which can then no longer be selected. -/
theorem history_tracks_capacityOne :
    Tracks 1 [.record early, .record late, .select 7, .get 8]
      ((empty 1 Nat.one_pos).after [.record early, .record late, .select 7, .get 8]) ∧
    ((empty 1 Nat.one_pos).after [.record early, .record late, .select 7, .get 8]).results =
      [late] ∧
    ((empty 1 Nat.one_pos).after [.record early, .record late, .select 7, .get 8]).current =
      some late :=
  ⟨(history_tracks Nat.one_pos).2.1 _ (show [7, 8].Nodup by decide), rfl, rfl⟩

end History

end MessageRouting
