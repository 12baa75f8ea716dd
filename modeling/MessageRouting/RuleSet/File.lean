import MessageRouting.FileContent
import MessageRouting.Json.Reader
import MessageRouting.RuleSet
import MessageRouting.Yaml.Document

/-!
# Rule set files

A rule set can be read from a YAML or a JSON file, told apart by the end of the file's name.
`RuleSet.ofFile` says which fault a file has that holds no rule set.
-/

namespace MessageRouting

namespace RuleSet

/-- Why a file holds no rule set. -/
inductive FileFault where
  /-- There is no such file. -/
  | missing (name : String)
  /-- It cannot be told whether it is there, or it cannot be read. -/
  | refused (path : FilePath) (fault : TreeFault)
  /-- Its bytes are no text. -/
  | encoding (path : FilePath)
  /-- Its name ends in an unknown way. -/
  | format (suffix : String)
  /-- It is not JSON, for the given reason. -/
  | json (path : FilePath) (reason : String)
  /-- It has too many containers inside each other. -/
  | depth (reason : String)
  /-- It is not YAML. -/
  | yaml (path : FilePath)
  /-- A part of it cannot be converted. -/
  | conversion (kind reason : String)
  /-- It describes no rule set. -/
  | content (fault : Fault)

section Reading

variable [Interpreter]

/-- The value that a JSON text holds. -/
def readJson (path : FilePath) (cs : List Char) : Except FileFault Value :=
  match Json.Dialect.open.read cs with
  | .ok v => .ok v
  | .error e =>
    match e.cause with
    | .depth isList => .error (.depth (Json.Cause.depth isList).message)
    | .digits n => .error (.conversion (Fault.numeralLimit n).name (Json.Cause.digits n).message)
    | _ => .error (.json path (e.located cs))

/-- The value that a YAML text holds. -/
def readYaml (path : FilePath) (cs : List Char) : Except FileFault Value :=
  match Yaml.read cs with
  | .ok v => .ok v
  | .error .malformed => .error (.yaml path)
  | .error .depth => .error (.depth Yaml.Fault.depth.message)
  | .error f => .error (.conversion f.name f.message)

/-- The value that the text of a file holds. -/
def readText (path : FilePath) (cs : List Char) : Except FileFault Value :=
  if path.suffix = ".yaml" || path.suffix = ".yml" then readYaml path cs
  else if path.suffix = ".json" then readJson path cs
  else .error (.format path.suffix)

/-- The rule set in a file of the given name. -/
def ofFile (name : String) (content : FileContent) : Except FileFault RuleSet :=
  let path := FilePath.ofString name
  match content with
  | .missing => .error (.missing name)
  | .refused f => .error (.refused path f)
  | .bytes data =>
    match FileContent.decode? data with
    | none => .error (.encoding path)
    | some cs =>
      match readText path cs with
      | .error e => .error e
      | .ok v => (ofValue v).mapError .content

end Reading

/-- The wording of a fault of the data. -/
def Fault.message : Fault → String
  | shape => "Rule set must be a mapping or a list of rules"
  | invalid _ => "Invalid rule set"

namespace FileFault

/-- The wording of a fault of a file. -/
def message : FileFault → String
  | missing name => "Rule set file not found: " ++ name
  | refused path f => f.message path
  | encoding path | yaml path => "Failed to parse " ++ path.text
  | format suffix => "Unsupported rule set format: " ++ suffix
  | json path reason => "Failed to parse " ++ path.text ++ ": " ++ reason
  | depth reason => reason
  | conversion _ reason => reason
  | content f => f.message

/-- The name of the kind of a fault of a file. -/
def name : FileFault → String
  | missing _ => "FileNotFoundError"
  | refused _ f => f.name
  | encoding _ | format _ | json .. | yaml _ | content _ => "ConfigurationError"
  | depth _ => "RecursionError"
  | conversion kind _ => kind

end FileFault

end RuleSet

end MessageRouting
