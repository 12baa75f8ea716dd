import MessageRouting.FileContent
import MessageRouting.Json.Reader
import MessageRouting.Message
import MessageRouting.Text.Encoding

/-!
# Message files

A message can be read from a JSON file: an object with a payload describes the whole message,
everything else is a payload.
-/

namespace MessageRouting.Message

open Schema

/-- Why a file holds no message. -/
inductive FileFault where
  /-- It cannot be read. -/
  | refused (path : FilePath) (fault : TreeFault)
  /-- Its bytes are no text. -/
  | encoding (reason : String)
  /-- It is not JSON, for the given reason. -/
  | json (reason : String)
  /-- It is JSON with too many containers inside each other. -/
  | depth (reason : String)
  /-- It holds an integer of too many digits. -/
  | digits (count : Nat)
  /-- The object describes no message. -/
  | invalid (complaints : List Complaint)

/-- The message that data describes. -/
def ofData (v : Value) : Checked Message :=
  if (v.get? "payload").isSome then check v else .accepted { empty with payload := v }

section Reading

variable [Interpreter]

/-- The message that a text describes. -/
def ofText (cs : List Char) : Except FileFault Message :=
  match Json.Dialect.open.read cs with
  | .error e =>
    match e.cause with
    | .depth isList => .error (.depth (Json.Cause.depth isList).message)
    | .digits n => .error (.digits n)
    | _ => .error (.json (e.located cs))
  | .ok v =>
    match ofData v with
    | .accepted m => .ok m
    | .rejected cs => .error (.invalid cs)

/-- The message in a file of the given name. -/
def ofFile (name : String) (content : FileContent) : Except FileFault Message :=
  let path := FilePath.ofString name
  match content with
  | .missing => .error (.refused path .missing)
  | .refused f => .error (.refused path f)
  | .bytes data =>
    match FileContent.decode? data with
    | some cs => ofText cs
    | none => .error (.encoding (((Text.Encoding.firstFault? data).map (·.message)).getD ""))

end Reading

namespace FileFault

/-- The wording of a fault. -/
def message : FileFault → String
  | refused path f => f.message path
  | encoding reason | json reason | depth reason => reason
  | digits n => (Fault.numeralLimit n).message
  | invalid cs => "; ".intercalate (cs.map fun c => c.cause.message)

/-- The name of the kind of a fault. -/
def name : FileFault → String
  | refused _ f => f.name
  | encoding _ => "UnicodeDecodeError"
  | json _ => "JSONDecodeError"
  | depth _ => "RecursionError"
  | digits n => (Fault.numeralLimit n).name
  | invalid _ => "ValidationError"

end FileFault

end MessageRouting.Message
