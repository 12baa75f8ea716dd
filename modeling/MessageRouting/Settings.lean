import MessageRouting.EnvFile
import MessageRouting.Limits
import MessageRouting.Settings.Section

/-!
# Settings

The settings of the program, in sections. A value that is given directly counts more than one from
the environment, and that more than one from an environment file; sections that are given in parts
are completed. `Settings.load` puts all of them together.
-/

namespace MessageRouting

open Schema

/-- How expressions are evaluated. -/
structure EvaluationSettings where
  /-- How many milliseconds an evaluation may take; zero for any number. -/
  budget : Int
  /-- How many queries are kept. -/
  cacheSize : Int
deriving DecidableEq, Repr, Inhabited

/-- Where rules are kept. -/
structure StoreSettings where
  /-- The kind of the store. -/
  kind : String
  /-- The path of a file. -/
  path : String
deriving DecidableEq, Repr, Inhabited

/-- How simulations are kept. -/
structure SimulationSettings where
  /-- How many results a history keeps. -/
  historySize : Int
deriving DecidableEq, Repr, Inhabited

/-- What is reported. -/
structure MonitoringSettings where
  /-- Whether is counted. -/
  countsEnabled : Bool
  /-- The least weight of logged events. -/
  logLevel : String
  /-- The form of logged events. -/
  logFormat : String
deriving DecidableEq, Repr, Inhabited

/-- All settings. -/
structure Settings where
  /-- How expressions are evaluated. -/
  evaluation : EvaluationSettings
  /-- Where rules are kept. -/
  store : StoreSettings
  /-- What rules are checked against. -/
  limits : Limits
  /-- How simulations are kept. -/
  simulation : SimulationSettings
  /-- What is reported. -/
  monitoring : MonitoringSettings
deriving DecidableEq, Repr, Inhabited

/-- How expressions are evaluated if nothing else is said. -/
def EvaluationSettings.usual : EvaluationSettings := ⟨5000, 256⟩

/-- Where rules are kept if nothing else is said. -/
def StoreSettings.usual : StoreSettings := ⟨"file", "openhqm_routes.json"⟩

/-- How simulations are kept if nothing else is said. -/
def SimulationSettings.usual : SimulationSettings := ⟨10⟩

/-- What is reported if nothing else is said. -/
def MonitoringSettings.usual : MonitoringSettings := ⟨true, "INFO", "json"⟩

namespace Settings

/-! ## Sections -/

/-- One of some texts. -/
def choice (options : List String) : Check String :=
  oneOf (options.map fun s => (s, s))

/-- How expressions are evaluated. -/
def evaluationSection : Section EvaluationSettings where
  name := "jq"
  kind := "JQSettings"
  fields := ["max_execution_time_ms", "cache_size"]
  check ms :=
    EvaluationSettings.mk <$> optional ms "max_execution_time_ms"
        EvaluationSettings.usual.budget (integerFrom 0)
      <*> optional ms "cache_size" EvaluationSettings.usual.cacheSize (integerFrom 0)

/-- Where rules are kept. -/
def storeSection : Section StoreSettings where
  name := "storage"
  kind := "StorageSettings"
  fields := ["type", "file_path"]
  check ms :=
    StoreSettings.mk <$> optional ms "type" StoreSettings.usual.kind (choice ["file", "memory"])
      <*> optional ms "file_path" StoreSettings.usual.path text

/-- What rules are checked against. -/
def limitsSection : Section Limits where
  name := "validation"
  kind := "ValidationSettings"
  fields := Limits.names
  check := Limits.checkMembers

/-- How simulations are kept. -/
def simulationSection : Section SimulationSettings where
  name := "simulation"
  kind := "SimulationSettings"
  fields := ["history_size"]
  check ms :=
    SimulationSettings.mk <$> optional ms "history_size" SimulationSettings.usual.historySize
      (integerFrom 1)

/-- What is reported. -/
def monitoringSection : Section MonitoringSettings where
  name := "monitoring"
  kind := "MonitoringSettings"
  fields := ["metrics_enabled", "log_level", "log_format"]
  check ms :=
    MonitoringSettings.mk <$> optional ms "metrics_enabled"
        MonitoringSettings.usual.countsEnabled boolean
      <*> optional ms "log_level" MonitoringSettings.usual.logLevel text
      <*> optional ms "log_format" MonitoringSettings.usual.logFormat (choice ["json", "text"])

/-- The names of the sections with the names of their fields. -/
def outline : Outline := [
  evaluationSection.outline, storeSection.outline, limitsSection.outline,
  simulationSection.outline, monitoringSection.outline]

/-- The names of the sections. -/
def sectionNames : List String := outline.map (·.1)

/-! ## Putting settings together -/

/-- Why there are no settings. -/
inductive Fault where
  /-- The text of a section cannot be read. -/
  | unparsed (f : SourceFault)
  /-- Values do not fit. -/
  | invalid (complaints : List Complaint)

/-- The wording of a fault. -/
def Fault.message : Fault → String
  | unparsed f => f.message
  | invalid cs => "\n".intercalate (cs.map fun c => c.cause.message)

/-- The names of all variables that settings are made of, in upper case. -/
def variableNames : List String :=
  let all := outline.flatMap fun (name, fields) =>
    (namePrefix ++ name) :: fields.flatMap fun f => [namePrefix ++ name ++ nameSeparator ++ f, f]
  all.map fun name => name.map Text.upperAscii

/-- The settings of what has been given. A section of which nothing is given is built from the
environment alone; if that fails, no other complaint counts. -/
def ofMembers (vars : Variables) (ms : Members) : Except (List Complaint) Settings := do
  let evaluation ← evaluationSection.fill vars ms
  let store ← storeSection.fill vars ms
  let limits ← limitsSection.fill vars ms
  let simulation ← simulationSection.fill vars ms
  let monitoring ← monitoringSection.fill vars ms
  let all := Settings.mk <$> evaluation <*> store <*> limits <*> simulation <*> monitoring
  match (all.both (closed sectionNames ms)).map (·.1) with
  | .accepted s => return s
  | .rejected cs => throw cs

/-- Loads the settings in an environment, with the text of an environment file if there is one, and
with values that are given directly. -/
def load [Interpreter] (env : EnvFile.Environment) (file : Option (List Char)) (given : Members) :
    Except Fault Settings := do
  let vars := Variables.ofBindings (env.map fun (n, v) => (n, some v))
  let fromEnvironment ← (vars.members .environment outline).mapError .unparsed
  let fromFile ← match file with
    | none => pure []
    | some cs =>
      let bindings := Variables.ofBindings (EnvFile.read env cs)
      let found ← (bindings.members .file outline).mapError .unparsed
      pure (bindings.withOthers outline found)
  let all := mergeMembers fromFile (mergeMembers fromEnvironment given)
  (ofMembers vars all).mapError .invalid

/-- The settings as a value. -/
def toValue (s : Settings) : Value :=
  .record [
    (evaluationSection.name, .record [("max_execution_time_ms", .int s.evaluation.budget),
      ("cache_size", .int s.evaluation.cacheSize)]),
    (storeSection.name,
      .record [("type", .text s.store.kind), ("file_path", .text s.store.path)]),
    (limitsSection.name, s.limits.entity.toValue),
    (simulationSection.name, .record [("history_size", .int s.simulation.historySize)]),
    (monitoringSection.name, .record [("metrics_enabled", .bool s.monitoring.countsEnabled),
      ("log_level", .text s.monitoring.logLevel), ("log_format", .text s.monitoring.logFormat)])]

end Settings

end MessageRouting
