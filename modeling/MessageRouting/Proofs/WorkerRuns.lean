import Mathlib.Data.List.Induction
import Mathlib.Logic.Relation
import MessageRouting.Query.Basic
import MessageRouting.Query.Worker

/-!
# Workers in use

A worker and its process run side by side: the process can reply at any moment, also when the worker
has just given up waiting and not yet stopped it. `Exchange.Step` is what either of them can do
next; which evaluations come to no end is left open. As long as the worker can wait at all, nothing
is left in the channel between two calls, and during a call there is its request or what the process
has made of it (`Exchange.Fits`), since a process that is late is stopped and takes the channel with
it. So every call is answered as if it were the only one (`Exchange.Paired`).

`worker_refines_engine` says what that comes to. A call that comes back in time has the outcome that
the engine without a budget gives, and the others are reported as overdue. There are three
exceptions, whoever asks: a request that cannot be sent, a reply that cannot be sent, and a budget
for which the worker cannot wait (`worker_differs_longBudget`).
-/

namespace MessageRouting.Query

open Expression

section

variable [Interpreter]

/-! ## Sending and waiting -/

theorem send_of_le {levels : Nat} (h : levels ≤ Interpreter.sending.depth) :
    send levels = .ok () :=
  Recursion.enter_of_le h

theorem send_of_lt {levels : Nat} (h : Interpreter.sending.depth < levels) :
    send levels = .error Interpreter.sending.fault :=
  Recursion.enter_of_lt h

/-- What cannot be sent nests too deep. -/
theorem send_eq_error {levels : Nat} {f : Fault} (h : send levels = .error f) :
    Interpreter.sending.depth < levels ∧ f = Interpreter.sending.fault := by
  rcases Nat.lt_or_ge Interpreter.sending.depth levels with hlt | hle
  · rw [send_of_lt hlt] at h
    exact ⟨hlt, (Except.error.inj h).symm⟩
  · rw [send_of_le hle] at h
    cases h

theorem send_eq_ok {levels : Nat} (h : send levels = .ok ()) :
    levels ≤ Interpreter.sending.depth := by
  rcases Nat.lt_or_ge Interpreter.sending.depth levels with hlt | hle
  · rw [send_of_lt hlt] at h
    cases h
  · exact hle

end

theorem wait_of_le {budget : Int} (h : budget ≤ longestWait) : wait budget = .ok () := if_pos h

theorem wait_of_lt {budget : Int} (h : longestWait < budget) :
    wait budget = .error (waitFault budget) :=
  if_neg (Int.not_le.2 h)

theorem wait_eq_ok {budget : Int} (h : wait budget = .ok ()) : budget ≤ longestWait := by
  by_contra hlt
  rw [wait_of_lt (Int.not_le.1 hlt)] at h
  cases h

/-- A wait that is refused is too long. -/
theorem wait_eq_error {budget : Int} {f : Fault} (h : wait budget = .error f) :
    longestWait < budget ∧ f = waitFault budget := by
  rcases Int.lt_or_le longestWait budget with hlt | hle
  · rw [wait_of_lt hlt] at h
    exact ⟨hlt, (Except.error.inj h).symm⟩
  · rw [wait_of_le hle] at h
    cases h

/-- A reply means what the evaluation comes to; a report is a report, whatever trouble it was. -/
theorem reply_conclude_respond (lib : Library) (r : Request) :
    (conclude r.expression (Worker.ofResponse (lib.respond r))).reply =
      (lib.evaluator.evaluate r.expression r.input).reply := by
  unfold Library.respond Library.evaluator
  dsimp only
  rcases lib.execute r.expression r.input with t | _ | v
  · cases t <;> rfl
  · rfl
  · rfl

section

variable [Interpreter]

/-! ## The first call of a worker -/

namespace Process

/-- The process after its first request. -/
def first (lib : Library) (r : Request) : Process := (start.ask r).serve lib

theorem first_of_le {lib : Library} {r : Request}
    (h : (lib.respond r).levels ≤ Interpreter.sending.depth) :
    first lib r = ⟨[], [lib.respond r], false⟩ := by
  simp only [first, start, ask, serve, List.nil_append, send_of_le h, Bool.false_eq_true, if_false]

theorem first_of_lt {lib : Library} {r : Request}
    (h : Interpreter.sending.depth < (lib.respond r).levels) :
    first lib r = ⟨[], [], true⟩ := by
  simp only [first, start, ask, serve, List.nil_append, send_of_lt h, Bool.false_eq_true, if_false]

/-- What a process has made of a request it does not change any more. -/
theorem serve_first (lib : Library) (r : Request) : (first lib r).serve lib = first lib r := by
  rcases Nat.lt_or_ge Interpreter.sending.depth (lib.respond r).levels with hlt | hle
  · rw [first_of_lt hlt]
    rfl
  · rw [first_of_le hle]
    rfl

/-- A process without requests stays one. -/
theorem running_serve {lib : Library} {p : Process} (h : running (some p) = start) :
    running (some (p.serve lib)) = start := by
  cases hended : p.ended with
  | true =>
    have hserve : p.serve lib = p := by
      unfold serve
      split
      · rfl
      · exact if_pos hended
    rwa [hserve]
  | false =>
    obtain rfl : p = start := by simpa [running, hended] using h
    rfl

end Process

namespace Worker

variable {lib : Library} {w : Worker} {r : Request} {inTime : Bool}

theorem ask_unsent (h : Interpreter.sending.depth < r.levels) :
    w.ask inTime r = ({ w with process := some (Process.running w.process) },
      .error (.crashed Interpreter.sending.fault)) := by
  simp only [ask, send_of_lt h]

theorem ask_unwaited (h : r.levels ≤ Interpreter.sending.depth)
    (hwait : longestWait < w.budget) :
    w.ask inTime r = ({ w with process := some ((Process.running w.process).ask r) },
      .error (.crashed (waitFault w.budget))) := by
  simp only [ask, send_of_le h, wait_of_lt hwait]

theorem ask_overdue (h : r.levels ≤ Interpreter.sending.depth) (hwait : w.budget ≤ longestWait) :
    w.ask false r = (w.stop, .error (overdue w.budget)) := by
  simp only [ask, send_of_le h, wait_of_le hwait, Bool.false_eq_true, if_false]

theorem ask_reply (hempty : Process.running w.process = .start)
    (h : r.levels ≤ Interpreter.sending.depth) (hwait : w.budget ≤ longestWait)
    (hreply : (w.library.respond r).levels ≤ Interpreter.sending.depth) :
    w.ask true r = ({ w with process := some .start }, ofResponse (w.library.respond r)) := by
  have hserved : (Process.start.ask r).serveAll w.library = ⟨[], [w.library.respond r], false⟩ :=
    Process.first_of_le hreply
  simp only [ask, send_of_le h, wait_of_le hwait, hempty, hserved, if_true]
  rfl

theorem ask_exited (hempty : Process.running w.process = .start)
    (h : r.levels ≤ Interpreter.sending.depth) (hwait : w.budget ≤ longestWait)
    (hreply : Interpreter.sending.depth < (w.library.respond r).levels) :
    w.ask true r = (w.stop, .error exited) := by
  have hserved : (Process.start.ask r).serveAll w.library = ⟨[], [], true⟩ :=
    Process.first_of_lt hreply
  simp only [ask, send_of_le h, wait_of_le hwait, hempty, hserved, if_true]

end Worker

/-! ## What can happen next -/

/-- What a worker is doing. -/
inductive Phase where
  /-- Nothing. -/
  | idle
  /-- It has sent a request and waits for the reply. -/
  | waiting (r : Request)
  /-- It has given up waiting and will stop the process. -/
  | late (r : Request)

/-- A call that has ended. -/
structure Call where
  /-- What was asked. -/
  request : Request
  /-- Whether it came back in time. -/
  inTime : Bool
  /-- What the caller was told. -/
  answer : Logged Outcome

/-- A call of which something is told. -/
def Call.of (r : Request) (inTime : Bool) (told : Except Trouble (Option Value)) : Call :=
  ⟨r, inTime, conclude r.expression told⟩

/-- A call is answered as the first one of a worker is. -/
def Call.Fresh (lib : Library) (budget : Int) (c : Call) : Prop :=
  c.answer = ((Worker.start lib budget).evaluate c.inTime c.request.expression c.request.input).2

theorem Call.fresh_of_ask {lib : Library} {budget : Int} {r : Request} {inTime : Bool}
    {told : Except Trouble (Option Value)}
    (h : ((Worker.start lib budget).ask inTime r).2 = told) :
    Call.Fresh lib budget (.of r inTime told) := by
  subst h
  rfl

/-- A worker and its process. -/
structure Exchange where
  /-- The process, while one runs. -/
  process : Option Process
  /-- What the worker is doing. -/
  phase : Phase
  /-- The calls that have ended, in their order. -/
  calls : List Call

namespace Exchange

/-- Before the first call. -/
def start : Exchange := ⟨none, .idle, []⟩

/-- What the worker or its process does next, where some evaluations come to no end. The worker
looks for a reply before it gives up, but one can still come until the process has been stopped. -/
inductive Step (lib : Library) (budget : Int) (Endless : Request → Prop) :
    Exchange → Exchange → Prop
  /-- A request cannot be sent. -/
  | refuse (p : Option Process) (calls : List Call) (r : Request) {f : Fault}
    (h : send r.levels = .error f) :
    Step lib budget Endless ⟨p, .idle, calls⟩
      ⟨some (Process.running p), .idle, calls ++ [.of r true (.error (.crashed f))]⟩
  /-- A request is sent, but the worker cannot wait. -/
  | leave (p : Option Process) (calls : List Call) (r : Request) {f : Fault}
    (h : send r.levels = .ok ()) (hwait : wait budget = .error f) :
    Step lib budget Endless ⟨p, .idle, calls⟩
      ⟨some ((Process.running p).ask r), .idle, calls ++ [.of r true (.error (.crashed f))]⟩
  /-- The worker sends a request, to a new process if none runs. -/
  | ask (p : Option Process) (calls : List Call) (r : Request) (h : send r.levels = .ok ())
    (hwait : wait budget = .ok ()) :
    Step lib budget Endless ⟨p, .idle, calls⟩
      ⟨some ((Process.running p).ask r), .waiting r, calls⟩
  /-- The process serves the first request that waits. -/
  | serve (p : Process) (phase : Phase) (calls : List Call)
    (h : ∀ r ∈ p.requests.head?, ¬ Endless r) :
    Step lib budget Endless ⟨some p, phase, calls⟩ ⟨some (p.serve lib), phase, calls⟩
  /-- The worker fetches the first reply. -/
  | fetch (p : Process) (r : Request) (calls : List Call) {response : Response}
    {rest : List Response} (h : p.responses = response :: rest) :
    Step lib budget Endless ⟨some p, .waiting r, calls⟩
      ⟨some { p with responses := rest }, .idle,
        calls ++ [.of r true (Worker.ofResponse response)]⟩
  /-- The process has ended without a reply. -/
  | exit (p : Process) (r : Request) (calls : List Call) (h : p.responses = [])
    (hended : p.ended = true) :
    Step lib budget Endless ⟨some p, .waiting r, calls⟩
      ⟨none, .idle, calls ++ [.of r true (.error Worker.exited)]⟩
  /-- The budget is used up, and there is no reply. -/
  | giveUp (p : Process) (r : Request) (calls : List Call) (h : p.responses = [])
    (hruns : p.ended = false) :
    Step lib budget Endless ⟨some p, .waiting r, calls⟩ ⟨some p, .late r, calls⟩
  /-- The worker stops the process, and all that is in the channel is lost. -/
  | stop (p : Option Process) (r : Request) (calls : List Call) :
    Step lib budget Endless ⟨p, .late r, calls⟩
      ⟨none, .idle, calls ++ [.of r false (.error (Worker.overdue budget))]⟩
  /-- The worker is closed between two calls. -/
  | close (p : Option Process) (calls : List Call) :
    Step lib budget Endless ⟨p, .idle, calls⟩ ⟨none, .idle, calls⟩

/-- What can come of a state. -/
abbrev Reaches (lib : Library) (budget : Int) (Endless : Request → Prop) :
    Exchange → Exchange → Prop :=
  Relation.ReflTransGen (Step lib budget Endless)

/-! ## Requests and replies stay paired -/

/-- A worker that waits for the reply to a request could send it, and its channel holds the request
or what the process has made of it. -/
structure Waits (lib : Library) (budget : Int) (r : Request) (p : Option Process) : Prop where
  /-- The request has been sent. -/
  levels_le : r.levels ≤ Interpreter.sending.depth
  /-- The worker can wait. -/
  budget_le : budget ≤ longestWait
  /-- What the channel holds. -/
  channel : p = some (Process.start.ask r) ∨ p = some (Process.first lib r)

/-- What a channel can hold. Between two calls it is empty, if the worker can wait at all. -/
def Fits (lib : Library) (budget : Int) : Phase → Option Process → Prop
  | .idle, p => budget ≤ longestWait → Process.running p = .start
  | .waiting r, p | .late r, p => Waits lib budget r p

/-- Requests and replies are paired. -/
structure Paired (lib : Library) (budget : Int) (x : Exchange) : Prop where
  /-- In the channel. -/
  fits : Fits lib budget x.phase x.process
  /-- In the calls that have ended. -/
  fresh : ∀ c ∈ x.calls, Call.Fresh lib budget c

namespace Waits

variable {lib : Library} {budget : Int} {r : Request} {p : Process}

/-- The process can serve the request in the meantime. -/
theorem serve (h : Waits lib budget r (some p)) : Waits lib budget r (some (p.serve lib)) := by
  refine ⟨h.levels_le, h.budget_le, .inr (congrArg some ?_)⟩
  rcases h.channel with hp | hp
  · rw [Option.some.inj hp]
    rfl
  · rw [Option.some.inj hp, Process.serve_first]

/-- A reply that is there is the one to the request, and nothing stands behind it. -/
theorem of_reply (h : Waits lib budget r (some p)) {response : Response} {rest : List Response}
    (hreply : p.responses = response :: rest) :
    response = lib.respond r ∧ (lib.respond r).levels ≤ Interpreter.sending.depth ∧
      { p with responses := rest } = Process.start := by
  rcases h.channel with hp | hp
  · rw [Option.some.inj hp] at hreply
    cases hreply
  · obtain rfl := Option.some.inj hp
    rcases Nat.lt_or_ge Interpreter.sending.depth (lib.respond r).levels with hlt | hle
    · rw [Process.first_of_lt hlt] at hreply
      cases hreply
    · rw [Process.first_of_le hle] at hreply ⊢
      obtain ⟨rfl, rfl⟩ := List.cons.inj hreply
      exact ⟨rfl, hle, rfl⟩

/-- A process that has ended could not send its reply. -/
theorem of_ended (h : Waits lib budget r (some p)) (hended : p.ended = true) :
    Interpreter.sending.depth < (lib.respond r).levels := by
  rcases h.channel with hp | hp
  · rw [Option.some.inj hp] at hended
    cases hended
  · by_contra hle
    rw [Option.some.inj hp, Process.first_of_le (Nat.not_lt.1 hle)] at hended
    cases hended

end Waits

variable {lib : Library} {budget : Int} {Endless : Request → Prop} {x y : Exchange}

/-- **A step keeps requests and replies paired.** -/
theorem Paired.step (hx : Paired lib budget x) (h : Step lib budget Endless x y) :
    Paired lib budget y := by
  obtain ⟨hfits, hcalls⟩ := hx
  have hmore {c : Call} (hc : Call.Fresh lib budget c) :
      ∀ d ∈ x.calls ++ [c], Call.Fresh lib budget d :=
    List.forall_mem_append.2 ⟨hcalls, List.forall_mem_singleton.2 hc⟩
  cases h with
  | refuse p calls r h =>
    obtain ⟨hdeep, rfl⟩ := send_eq_error h
    refine ⟨fun hwait => ?_, hmore (Call.fresh_of_ask (by rw [Worker.ask_unsent hdeep]))⟩
    rw [hfits hwait]
    rfl
  | leave p calls r h hwait =>
    obtain ⟨hlt, rfl⟩ := wait_eq_error hwait
    exact ⟨fun hle => absurd hle (Int.not_le.2 hlt),
      hmore (Call.fresh_of_ask (by rw [Worker.ask_unwaited (send_eq_ok h) hlt]; rfl))⟩
  | ask p calls r h hwait =>
    have hle := wait_eq_ok hwait
    exact ⟨⟨send_eq_ok h, hle, .inl (by rw [hfits hle])⟩, hcalls⟩
  | serve p phase calls h =>
    refine ⟨?_, hcalls⟩
    cases phase with
    | idle => exact fun hwait => Process.running_serve (hfits hwait)
    | waiting r => exact Waits.serve hfits
    | late r => exact Waits.serve hfits
  | fetch p r calls h =>
    obtain ⟨rfl, hle, hempty⟩ := Waits.of_reply hfits h
    refine ⟨fun _ => by rw [hempty]; rfl, hmore (Call.fresh_of_ask ?_)⟩
    rw [Worker.ask_reply rfl hfits.levels_le hfits.budget_le hle]
    rfl
  | exit p r calls h hended =>
    have hexits := Waits.of_ended hfits hended
    exact ⟨fun _ => rfl, hmore (Call.fresh_of_ask
      (by rw [Worker.ask_exited rfl hfits.levels_le hfits.budget_le hexits]))⟩
  | giveUp p r calls h hruns => exact ⟨hfits, hcalls⟩
  | stop p r calls =>
    exact ⟨fun _ => rfl,
      hmore (Call.fresh_of_ask (by rw [Worker.ask_overdue hfits.levels_le hfits.budget_le]; rfl))⟩
  | close p calls => exact ⟨fun _ => rfl, hcalls⟩

/-- Requests and replies are paired whatever has happened. -/
theorem paired_of_reaches (h : Reaches lib budget Endless start x) : Paired lib budget x := by
  induction h with
  | refl => exact ⟨fun _ => rfl, nofun⟩
  | tail _ hstep ih => exact ih.step hstep

/-! ## Calls that can be made -/

/-- Between two calls a request can be sent, to an empty channel. -/
theorem Paired.ask (hx : Paired lib budget x) (hidle : x.phase = .idle)
    (hwait : budget ≤ longestWait) {r : Request} (hsent : r.levels ≤ Interpreter.sending.depth) :
    Step lib budget Endless x ⟨some (Process.start.ask r), .waiting r, x.calls⟩ := by
  obtain ⟨p, phase, calls⟩ := x
  cases hidle
  have hstep : Step lib budget Endless ⟨p, .idle, calls⟩ _ :=
    .ask p calls r (send_of_le hsent) (wait_of_le hwait)
  rwa [show Process.running p = .start from hx.fits hwait] at hstep

/-- Between two calls the next one can come back, and leaves no process or one with an empty
channel. -/
theorem exists_answered (hx : Paired lib budget x) (hidle : x.phase = .idle)
    (hwait : budget ≤ longestWait) {r : Request} (hsent : r.levels ≤ Interpreter.sending.depth)
    (hends : ¬ Endless r) :
    ∃ p answer, Process.running p = .start ∧
      Reaches lib budget Endless x ⟨p, .idle, x.calls ++ [⟨r, true, answer⟩]⟩ := by
  have hask : Step lib budget Endless x _ := hx.ask hidle hwait hsent
  have hserve : Step lib budget Endless ⟨some (Process.start.ask r), .waiting r, x.calls⟩
      ⟨some (Process.first lib r), .waiting r, x.calls⟩ :=
    .serve _ (.waiting r) x.calls fun s hs => by
      obtain rfl : r = s := Option.some.inj hs
      exact hends
  rcases Nat.lt_or_ge Interpreter.sending.depth (lib.respond r).levels with hlt | hle
  · rw [Process.first_of_lt hlt] at hserve
    exact ⟨none, _, rfl, .tail (.tail (.single hask) hserve) (.exit _ r x.calls rfl rfl)⟩
  · rw [Process.first_of_le hle] at hserve
    exact ⟨some .start, _, rfl, .tail (.tail (.single hask) hserve) (.fetch _ r x.calls rfl)⟩

/-- Between two calls the next one can be overdue, whatever it asks. -/
theorem exists_overdue (hx : Paired lib budget x) (hidle : x.phase = .idle)
    (hwait : budget ≤ longestWait) {r : Request} (hsent : r.levels ≤ Interpreter.sending.depth) :
    ∃ answer, Reaches lib budget Endless x ⟨none, .idle, x.calls ++ [⟨r, false, answer⟩]⟩ := by
  have hask : Step lib budget Endless x _ := hx.ask hidle hwait hsent
  exact ⟨_, .tail (.tail (.single hask) (.giveUp _ r x.calls rfl rfl)) (.stop _ r x.calls)⟩

/-- All sequences of calls that can be sent can happen, if the worker can wait, and any of the calls
can be overdue. -/
theorem exists_reaches (lib : Library) {budget : Int} (Endless : Request → Prop)
    (hwait : budget ≤ longestWait) (planned : List (Request × Bool))
    (h : ∀ c ∈ planned, c.1.levels ≤ Interpreter.sending.depth ∧ (c.2 = true → ¬ Endless c.1)) :
    ∃ x, Reaches lib budget Endless start x ∧ x.phase = .idle ∧
      x.calls.map (fun c => (c.request, c.inTime)) = planned := by
  induction planned using List.reverseRecOn with
  | nil => exact ⟨start, .refl, rfl, rfl⟩
  | append_singleton planned c ih =>
    obtain ⟨x, hreaches, hidle, hcalls⟩ := ih fun d hd => h d (List.mem_append_left _ hd)
    have hpaired := paired_of_reaches hreaches
    obtain ⟨hsent, hends⟩ := h c (List.mem_append_right _ (List.mem_singleton_self c))
    obtain ⟨r, inTime⟩ := c
    cases inTime with
    | true =>
      obtain ⟨p, answer, -, hnext⟩ := exists_answered hpaired hidle hwait hsent (hends rfl)
      exact ⟨_, hreaches.trans hnext, rfl, by rw [List.map_append, hcalls]; rfl⟩
    | false =>
      obtain ⟨answer, hnext⟩ := exists_overdue hpaired hidle hwait hsent
      exact ⟨_, hreaches.trans hnext, rfl, by rw [List.map_append, hcalls]; rfl⟩

end Exchange

/-! ## What callers are told -/

namespace Worker

variable {w : Worker}

/-- The answers of a worker to requests, some of which come back in time. -/
def answers (w : Worker) : List (Request × Bool) → List (Logged Outcome)
  | [] => []
  | (r, inTime) :: rest =>
    let (w, answer) := w.evaluate inTime r.expression r.input
    answer :: w.answers rest

/-- A worker with an empty channel tells of a request what a new one does, and has then an empty
channel again; so does one that cannot wait, whatever its channel holds. -/
theorem ask_eq (hempty : w.budget ≤ longestWait → Process.running w.process = .start)
    (inTime : Bool) (r : Request) :
    ∃ p, (w.budget ≤ longestWait → Process.running p = .start) ∧
      w.ask inTime r = ({ w with process := p }, ((start w.library w.budget).ask inTime r).2) := by
  let new : Worker := start w.library w.budget
  have hnew : Process.running new.process = .start := rfl
  rcases Nat.lt_or_ge Interpreter.sending.depth r.levels with hunsent | hsent
  · refine ⟨some (Process.running w.process), fun hwait => ?_, ?_⟩
    · rw [hempty hwait]
      rfl
    · rw [ask_unsent hunsent, show new.ask inTime r = _ from ask_unsent hunsent]
  rcases Int.lt_or_le longestWait w.budget with hunwaited | hwait
  · refine ⟨some ((Process.running w.process).ask r),
      fun hwait => absurd hwait (Int.not_le.2 hunwaited), ?_⟩
    rw [ask_unwaited hsent hunwaited, show new.ask inTime r = _ from ask_unwaited hsent hunwaited]
    rfl
  cases inTime with
  | false =>
    refine ⟨none, fun _ => rfl, ?_⟩
    rw [ask_overdue hsent hwait, show new.ask false r = _ from ask_overdue hsent hwait]
    rfl
  | true =>
    rcases Nat.lt_or_ge Interpreter.sending.depth (w.library.respond r).levels with hexits | hreply
    · refine ⟨none, fun _ => rfl, ?_⟩
      rw [ask_exited (hempty hwait) hsent hwait hexits,
        show new.ask true r = _ from ask_exited hnew hsent hwait hexits]
      rfl
    · refine ⟨some .start, fun _ => rfl, ?_⟩
      rw [ask_reply (hempty hwait) hsent hwait hreply,
        show new.ask true r = _ from ask_reply hnew hsent hwait hreply]
      rfl

/-- A worker answers calls as they were answered. -/
theorem answers_eq (hempty : w.budget ≤ longestWait → Process.running w.process = .start)
    {calls : List Call} (h : ∀ c ∈ calls, Call.Fresh w.library w.budget c) :
    w.answers (calls.map fun c => (c.request, c.inTime)) = calls.map (·.answer) := by
  induction calls generalizing w with
  | nil => rfl
  | cons c calls ih =>
    obtain ⟨p, hp, heq⟩ := ask_eq hempty c.inTime c.request
    have hanswer := h c List.mem_cons_self
    have hrest := @ih { w with process := p } hp fun d hd => h d (List.mem_cons_of_mem _ hd)
    simp only [Call.Fresh, evaluate] at hanswer
    simp only [List.map_cons, answers, evaluate, heq, hrest, hanswer]

end Worker

/-- The text about an evaluation that is overdue. -/
def overdueText (budget : Int) : String := "JQ execution exceeded " ++ toString budget ++ "ms"

/-- What the caller is told of a call, exactly. -/
structure Call.Exact (lib : Library) (budget : Int) (c : Call) : Prop where
  /-- A call that comes back in time has the outcome that the engine without a budget gives. -/
  refines : c.request.levels ≤ Interpreter.sending.depth → budget ≤ longestWait →
    c.inTime = true → (lib.respond c.request).levels ≤ Interpreter.sending.depth →
    c.answer.reply = (lib.evaluator.evaluate c.request.expression c.request.input).reply
  /-- Every other call is overdue. -/
  overdue : c.request.levels ≤ Interpreter.sending.depth → budget ≤ longestWait →
    c.inTime = false → c.answer.reply =
      .answered (.failed (some (overdueText budget)) (Diagnosis.suggestions (overdueText budget)))
  /-- A reply that cannot be sent is missed. -/
  exited : c.request.levels ≤ Interpreter.sending.depth → budget ≤ longestWait →
    c.inTime = true → Interpreter.sending.depth < (lib.respond c.request).levels →
    c.answer.reply = .answered (Report.ofText "JQ worker exited unexpectedly").outcome
  /-- A budget for which the worker cannot wait is refused. -/
  unwaited : c.request.levels ≤ Interpreter.sending.depth → longestWait < budget →
    c.answer.reply = .answered (Report.ofFault (waitFault budget)).outcome
  /-- A request that cannot be sent is refused. -/
  unsent : Interpreter.sending.depth < c.request.levels →
    c.answer.reply = .answered (Report.ofFault Interpreter.sending.fault).outcome

theorem Call.Fresh.exact {lib : Library} {budget : Int} {c : Call} (h : Call.Fresh lib budget c) :
    Call.Exact lib budget c := by
  have htold {told : Except Trouble (Option Value)}
      (hask : ((Worker.start lib budget).ask c.inTime c.request).2 = told) :
      c.answer.reply = (conclude c.request.expression told).reply := by
    rw [h, ← hask]
    rfl
  constructor
  case refines =>
    intro hsent hwait hinTime hreply
    rw [htold (by rw [hinTime, Worker.ask_reply rfl hsent hwait hreply])]
    exact reply_conclude_respond lib c.request
  case overdue =>
    intro hsent hwait hlate
    rw [htold (by rw [hlate, Worker.ask_overdue hsent hwait])]
    rfl
  case exited =>
    intro hsent hwait hinTime hexits
    rw [htold (by rw [hinTime, Worker.ask_exited rfl hsent hwait hexits])]
    rfl
  case unwaited =>
    intro hsent hunwaited
    rw [htold (by rw [Worker.ask_unwaited hsent hunwaited])]
    rfl
  case unsent =>
    intro hunsent
    rw [htold (by rw [Worker.ask_unsent hunsent])]
    rfl

open Exchange

/-- **A worker refines its engine.** Whatever happens, each call is told exactly what it would be as
the only one: the outcome of the engine without a budget if it comes back in time, and otherwise
that it is overdue. These are the answers that the worker gives to the same calls one after the
other. Where the worker can wait at all, a reply of any kind leaves an empty channel, the next call
can come back, and all sequences of calls can happen, with any of them overdue. -/
theorem worker_refines_engine (lib : Library) (budget : Int) (Endless : Request → Prop) :
    (∀ x, Reaches lib budget Endless start x →
      (∀ c ∈ x.calls, Call.Exact lib budget c) ∧
      (Worker.start lib budget).answers (x.calls.map fun c => (c.request, c.inTime)) =
        x.calls.map (·.answer) ∧
      (budget ≤ longestWait →
        (∀ r y, x.phase = .waiting r → Step lib budget Endless x y → y.phase = .idle →
          Process.running y.process = .start) ∧
        (x.phase = .idle → ∀ r : Request, r.levels ≤ Interpreter.sending.depth → ¬ Endless r →
          ∃ p answer, Process.running p = .start ∧
            Reaches lib budget Endless x ⟨p, .idle, x.calls ++ [⟨r, true, answer⟩]⟩))) ∧
    (budget ≤ longestWait → ∀ planned : List (Request × Bool),
      (∀ c ∈ planned, c.1.levels ≤ Interpreter.sending.depth ∧ (c.2 = true → ¬ Endless c.1)) →
      ∃ x, Reaches lib budget Endless start x ∧ x.phase = .idle ∧
        x.calls.map (fun c => (c.request, c.inTime)) = planned) := by
  refine ⟨fun x hx => ?_, exists_reaches lib Endless⟩
  have hpaired := paired_of_reaches hx
  refine ⟨fun c hc => (hpaired.fresh c hc).exact,
    Worker.answers_eq (w := .start lib budget) (fun _ => rfl) hpaired.fresh,
    fun hwait => ⟨fun r y _ hstep hidle => ?_, fun hidle r hsent hends =>
      exists_answered hpaired hidle hwait hsent hends⟩⟩
  have hfits := (hpaired.step hstep).fits
  rw [hidle] at hfits
  exact hfits hwait

end

namespace Request

/-- A request for a member. -/
def member : Request := ⟨.text ".a", .object [(.text "a", .int 1)]⟩

/-- A request for a member of a number, which is an error. -/
def strange : Request := ⟨.text ".a.b", .object [(.text "a", .int 1)]⟩

/-- A request without a result. -/
def void : Request := ⟨.text "empty", .null⟩

/-- A request that is never answered. -/
def endless : Request := ⟨.text "last(repeat(0))", .null⟩

end Request

open Exchange

open scoped Interpreter.Usual

/-- Errors and empty outputs between two calls that are overdue. -/
theorem worker_refines_engine_mixed :
    ∃ x, Reaches standard 300 (· = .endless) start x ∧ x.phase = .idle ∧
      x.calls.map (fun c => (c.request, c.inTime)) =
        [(.member, false), (.strange, true), (.void, true), (.endless, false), (.member, true)] ∧
      ∀ c ∈ x.calls, Call.Exact standard 300 c := by
  have hplanned : ∀ c ∈ [(Request.member, false), (.strange, true), (.void, true),
      (.endless, false), (.member, true)],
      c.1.levels ≤ Interpreter.sending.depth ∧ (c.2 = true → c.1 ≠ .endless) := by
    simp only [List.mem_cons, List.not_mem_nil, or_false, forall_eq_or_imp, forall_eq]
    have hother {r : Request} {s : String} (h : r.expression = .text s)
        (hs : s ≠ "last(repeat(0))") : r ≠ .endless := by
      rintro rfl
      exact hs (Scalar.text.inj (Value.scalar.inj h)).symm
    exact ⟨⟨by decide, nofun⟩, ⟨by decide, fun _ => hother rfl (by decide)⟩,
      ⟨by decide, fun _ => hother rfl (by decide)⟩, ⟨by decide, nofun⟩,
      ⟨by decide, fun _ => hother rfl (by decide)⟩⟩
  obtain ⟨x, hreaches, hidle, hcalls⟩ :=
    (worker_refines_engine standard 300 (· = .endless)).2 (by decide) _ hplanned
  exact ⟨x, hreaches, hidle, hcalls,
    ((worker_refines_engine standard 300 (· = .endless)).1 x hreaches).1⟩

/-- A budget of some three billion years. -/
def longBudget : Int := 100000000000000000000

/-- A worker with a budget for which it cannot wait reports that of any call, where the engine
without a budget gives an output. -/
theorem worker_differs_longBudget :
    ∃ x, Reaches standard longBudget (· = .endless) start x ∧
      x.calls.map (fun c => (c.request, c.inTime, c.answer.reply)) =
        [(.member, true, .answered (.failed
          (some "timestamp too large to convert to C _PyTime_t") []))] ∧
      (standard.evaluator.evaluate Request.member.expression Request.member.input).reply =
        .answered (.ofOutput (.int 1)) := by
  have hstep : Step standard longBudget (· = .endless) start _ :=
    .leave none [] .member (send_of_le (by decide)) (wait_of_lt (by decide))
  have hfault : waitFault longBudget =
      .overflow "timestamp too large to convert to C _PyTime_t" := by
    decide +kernel
  refine ⟨_, .single hstep, ?_, ?_⟩
  · rw [hfault]
    rfl
  · rfl

end MessageRouting.Query
