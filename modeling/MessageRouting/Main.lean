import MessageRouting.CommandLine
import MessageRouting.Query.Basic
import MessageRouting.Settings

/-!
# The program

Runs the tool that the first argument names. Settings come from the environment and from the file
`.env`.
-/

namespace MessageRouting.Main

open scoped Interpreter.Usual

/-- What stands at a path. -/
def content (name : String) : IO FileContent := do
  match ← (IO.FS.readBinFile name).toBaseIO with
  | .ok data => return .bytes data
  | .error (.noFileOrDirectory ..) => return .missing
  | .error (.permissionDenied ..) => return .refused .denied
  | .error _ => return .refused .isDirectory

/-- The variables of the environment that settings are made of. -/
def environment : IO EnvFile.Environment :=
  Settings.variableNames.filterMapM fun name => do
    return (← IO.getEnv name).map fun v => (name, v)

/-- The text of the environment file. -/
def environmentFile : IO (Option (List Char)) := do
  match ← content ".env" with
  | .bytes data => return FileContent.decode? data
  | _ => return none

/-- A number of nanoseconds as text: milliseconds with two places. -/
def duration (nanoseconds : Nat) : String :=
  let hundredths := nanoseconds / 10000
  toString (hundredths / 100) ++ "." ++ String.ofList (Decimal.padded 2 (hundredths % 100)) ++ "ms"

/-- Prints what a tool does, and ends with its status. -/
def finish (o : CommandLine.Output) : IO UInt32 := do
  (← IO.getStdout).putStr o.text
  match o.ending with
  | .status code => return UInt32.ofNat code
  | .failed f =>
    (← IO.getStderr).putStr (f.name ++ ": " ++ f.message ++ "\n")
    return 1

/-- The contents of some files. -/
def filesOf (names : List String) : IO CommandLine.Files := do
  let found ← names.mapM fun name => do return (name, ← content name)
  return fun name => (found.lookup name).getD .missing

/-- What evaluates expressions. -/
def evaluator : Expression.Evaluator := Query.standard.evaluator

/-- Routes a message and measures how long it takes. -/
def simulate (files : CommandLine.Files) : List String → IO CommandLine.Output
  | [rulesFile, messageFile] => do
    match CommandLine.simulation files rulesFile messageFile with
    | .error f => return ⟨[], .failed f⟩
    | .ok (set, m) =>
      let begun ← IO.monoNanosNow
      let r ← IO.lazyPure fun _ => runOnce evaluator set.rules m
      let total := duration ((← IO.monoNanosNow) - begun)
      match r with
      | .ok r =>
        return CommandLine.reportRun ⟨fun _ => duration 0, total, total, duration 0⟩ r.result
      | .error h => return ⟨[], .failed (.data h.fault)⟩
  | _ => return CommandLine.usage CommandLine.simulateUsage

/-- Runs a tool. -/
def run (s : Settings) : List String → IO UInt32
  | "simulate" :: args => do finish (← simulate (← filesOf args) args)
  | "validate" :: args => do
    finish (CommandLine.validate evaluator s.limits (← filesOf args) args)
  | _ =>
    finish ⟨[CommandLine.simulateUsage, CommandLine.validateUsage],
      .status CommandLine.unusable⟩

end MessageRouting.Main

open scoped MessageRouting.Interpreter.Usual in
/-- Runs the tool that the first argument names. -/
def main (args : List String) : IO UInt32 := do
  let env ← MessageRouting.Main.environment
  let file ← MessageRouting.Main.environmentFile
  match MessageRouting.Settings.load env file [] with
  | .ok s => MessageRouting.Main.run s args
  | .error f =>
    (← IO.getStderr).putStr (f.message ++ "\n")
    return 1
