import MessageRouting.Interpreter
import MessageRouting.Query.Library
import MessageRouting.Value

/-!
# A worker with a budget

An expression can run on without an end, so a `Worker` has it evaluated in a process of its own,
which it asks over a channel. What is sent and what comes back wait in the channel in their order.
When a reply is not there in time the worker stops the process, and with it the channel and all that
is still in it; the next request starts a new one.

Not all goes through the channel: data that nest too deep cannot be sent. A request of such data is
refused, and a process that should reply with such data ends. A budget can be longer than the worker
is able to wait, and then it does not wait at all.
-/

namespace MessageRouting.Query

open Expression

/-- What a process is asked. -/
structure Request where
  /-- The expression. -/
  expression : Value
  /-- Its input. -/
  input : Value
deriving Inhabited

/-- What a process replies. -/
inductive Response where
  /-- The first result. -/
  | value (v : Value)
  /-- There is no result. -/
  | empty
  /-- An error. -/
  | error (r : Report)
deriving Inhabited

/-- What an evaluation comes to as a reply. -/
def Response.ofExcept : Except Trouble (Option Value) → Response
  | .ok (some v) => .value v
  | .ok none => .empty
  | .error t => .error t.report

/-- The reply to a request. -/
def Library.respond (lib : Library) (r : Request) : Response :=
  .ofExcept (lib.execute r.expression r.input)

/-! ## The channel -/

section Channel

variable [Interpreter]

/-- Sends data of a number of levels. -/
def send (levels : Nat) : Except Fault Unit := Interpreter.sending.enter levels

/-- How many levels a request has. -/
def Request.levels (r : Request) : Nat := max r.expression.height r.input.height

/-- How many levels a reply has. -/
def Response.levels : Response → Nat
  | .value v => v.height
  | .empty | .error _ => 0

end Channel

/-- The longest wait, in milliseconds. -/
def longestWait : Int := 2147483647

/-- The fault of a wait for too many milliseconds. The limits are those of the system and of its
clock, then those of doubles, for the milliseconds and for the seconds. -/
def waitFault (milliseconds : Int) : Fault :=
  .overflow <|
    if milliseconds < 9223372036855 then "timeout is too large"
    else if (Binary64.ofInt milliseconds).isFinite then
      "timestamp too large to convert to C _PyTime_t"
    else if (Binary64.ofRatio false milliseconds.toNat 1000).isFinite then
      "cannot convert float infinity to integer"
    else "integer division result too large for a float"

/-- Waits for a number of milliseconds. -/
def wait (milliseconds : Int) : Except Fault Unit :=
  if milliseconds ≤ longestWait then .ok () else .error (waitFault milliseconds)

/-! ## Processes -/

/-- A process and its channel. -/
structure Process where
  /-- Requests that have been sent and not been served. -/
  requests : List Request
  /-- Replies that have not yet been fetched. -/
  responses : List Response
  /-- Whether it has ended. -/
  ended : Bool
deriving Inhabited

namespace Process

/-- A new process. -/
def start : Process := ⟨[], [], false⟩

/-- A process, or a new one where none runs. -/
def running (p : Option Process) : Process :=
  match p with
  | some p => if p.ended then start else p
  | none => start

/-- Sends a request. -/
def ask (p : Process) (r : Request) : Process := { p with requests := p.requests ++ [r] }

variable [Interpreter]

/-- Serves the first request that waits. A reply that cannot be sent ends the process. -/
def serve (lib : Library) (p : Process) : Process :=
  match p.requests with
  | [] => p
  | r :: rs =>
    if p.ended then p
    else
      match send (lib.respond r).levels with
      | .ok () => { p with requests := rs, responses := p.responses ++ [lib.respond r] }
      | .error _ => { p with requests := rs, ended := true }

/-- Serves all that waits. -/
def serveAll (lib : Library) (p : Process) : Process := p.requests.foldl (fun p _ => p.serve lib) p

end Process

/-! ## Workers -/

/-- A worker. -/
structure Worker where
  /-- What its process evaluates with. -/
  library : Library
  /-- How many milliseconds an evaluation may take. -/
  budget : Int
  /-- The process, while one runs. -/
  process : Option Process

namespace Worker

/-- A worker without a process. -/
def start (library : Library) (budget : Int) : Worker := ⟨library, budget, none⟩

/-- Stops the process. -/
def stop (w : Worker) : Worker := { w with process := none }

/-- The report on an evaluation that takes longer than a number of milliseconds. -/
def overdue (budget : Int) : Trouble :=
  .reported (.ofText ("JQ execution exceeded " ++ toString budget ++ "ms"))

/-- The report on a process that has ended. -/
def exited : Trouble := .reported (.ofText "JQ worker exited unexpectedly")

/-- What a reply means. -/
def ofResponse : Response → Except Trouble (Option Value)
  | .value v => .ok (some v)
  | .empty => .ok none
  | .error r => .error (.reported r)

variable [Interpreter]

/-- Asks the process, a new one if none runs, and waits for the reply as long as the budget lasts;
`inTime` says whether there is one by then, or the process has ended. -/
def ask (w : Worker) (inTime : Bool) (r : Request) : Worker × Except Trouble (Option Value) :=
  let p := Process.running w.process
  match send r.levels with
  | .error f => ({ w with process := some p }, .error (.crashed f))
  | .ok () =>
    let p := p.ask r
    match wait w.budget with
    | .error f => ({ w with process := some p }, .error (.crashed f))
    | .ok () =>
      if inTime then
        let p := p.serveAll w.library
        match p.responses with
        | reply :: rest =>
          ({ w with process := some { p with responses := rest } }, ofResponse reply)
        | [] => (w.stop, .error exited)
      else (w.stop, .error (overdue w.budget))

/-- Evaluates an expression on an input. -/
def evaluate (w : Worker) (inTime : Bool) (expression input : Value) : Worker × Logged Outcome :=
  let (w, answer) := w.ask inTime ⟨expression, input⟩
  (w, conclude expression answer)

end Worker

end MessageRouting.Query
