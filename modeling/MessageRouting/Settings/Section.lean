import MessageRouting.Json.Reader
import MessageRouting.Schema.Coercion
import MessageRouting.Text.Lowercase

/-!
# Sections of settings and where they come from

A section can be given as a whole, as JSON in one variable, or field by field, in variables whose
names join the names of section and field. The fields of a section are also looked up under their
own names when the section is built. Names of variables are compared in lower case.
-/

namespace MessageRouting.Settings

open Schema

/-! ## Variables -/

/-- Variables with their names in lower case; some have no value. -/
abbrev Variables := List (String × Option String)

/-- A text in lower case. -/
def lowered (s : String) : String := String.ofList (Text.lower s.toList)

/-- Variables of one kind of source. -/
inductive Source where
  /-- The environment of the process. -/
  | environment
  /-- An environment file. -/
  | file
deriving DecidableEq, Repr

/-- The text of a section cannot be read. -/
structure SourceFault where
  /-- The name of the section. -/
  name : String
  /-- Where the text comes from. -/
  source : Source
deriving DecidableEq, Repr

/-- The names of sections with the names of their fields. -/
abbrev Outline := List (String × List String)

/-- What the names of variables of this program begin with. -/
def namePrefix : String := "openhqm_rm_"

/-- What stands between the names of a section and a field. -/
def nameSeparator : String := "__"

namespace SourceFault

/-- The name of a source. -/
def sourceName : Source → String
  | .environment => "EnvSettingsSource"
  | .file => "DotEnvSettingsSource"

/-- The wording. -/
def message (f : SourceFault) : String :=
  "error parsing value for field \"" ++ f.name ++ "\" from source \"" ++ sourceName f.source ++ "\""

end SourceFault

/-! ## Merging -/

mutual

/-- The members of both lists. Where both hold an object it is merged, else the second counts. -/
def mergeMembers (low : Members) : Members → Members
  | [] => low
  | (name, v) :: rest =>
    mergeMembers (Value.setMember low name (mergeValue (Value.memberOf? low name) v)) rest

/-- A value in the place of another one. -/
def mergeValue (low : Option Value) : Value → Value
  | .object ns =>
    match low with
    | some (.object ms) => .object (mergeMembers ms ns)
    | _ => .object ns
  | v => v

end

/-- Sets a value inside objects inside each other. What is no object on the way stays. -/
def setAt (ms : Members) (v : Value) : List String → Members
  | [] => ms
  | [name] => Value.setMember ms (.text name) v
  | name :: names =>
    match Value.memberOf? ms (.text name) with
    | none => Value.setMember ms (.text name) (.object (setAt [] v names))
    | some (.object ns) => Value.setMember ms (.text name) (.object (setAt ns v names))
    | some _ => ms

namespace Variables

/-- Variables from names in any case; of two that become one the last counts. -/
def ofBindings (bs : List (String × Option String)) : Variables :=
  bs.foldl (fun vs (n, v) =>
    let n := lowered n
    if vs.any fun w => w.1 = n then vs.map fun w => if w.1 = n then (n, v) else w
    else vs ++ [(n, v)]) []

/-- The value of a variable. -/
def valueOf? (vs : Variables) (name : String) : Option String := (vs.lookup name).join

/-- A value, or null. -/
def textOrNull (v : Option String) : Value := Value.textOrNull v

/-- The rest of a text after a beginning. -/
def after? (beginning s : String) : Option String :=
  (Json.Reader.after? beginning.toList s.toList).map String.ofList

/-- The fields of a section that stand in variables of their own. -/
def nested (vs : Variables) (name : String) : Members :=
  vs.foldl (fun ms (n, v) =>
    match after? (namePrefix ++ name ++ nameSeparator) n with
    | some rest => setAt ms (textOrNull v) (rest.splitOn nameSeparator)
    | none => ms) []

/-- Names of members as the fields of a section have them, whatever their case. -/
def withFieldNames (fields : List String) (ms : Members) : Members :=
  ms.foldl (fun found (name, v) =>
    let known := match name with
      | .text s => (fields.find? fun f => f = lowered s).map Scalar.text
      | _ => none
    Value.setMember found (known.getD name) v) []

/-- The value that variables give to a section. -/
def sectionValue [Interpreter] (vs : Variables) (source : Source) (name : String) :
    Except SourceFault (Option Value) :=
  let fields := vs.nested name
  match vs.valueOf? (namePrefix ++ name) with
  | none => .ok (if fields.isEmpty then none else some (.object fields))
  | some s =>
    match Json.Dialect.open.read s.toList with
    | .error _ => .error ⟨name, source⟩
    | .ok .null => .ok none
    | .ok (.object ms) => .ok (some (.object (mergeMembers ms fields)))
    | .ok v => .ok (some v)

/-- The sections that variables give. -/
def members [Interpreter] (vs : Variables) (source : Source) : Outline → Except SourceFault Members
  | [] => .ok []
  | (name, fields) :: rest => do
    let found ← vs.sectionValue source name
    let others ← members vs source rest
    match found with
    | none => return others
    | some (.object ms) => return (.text name, .object (withFieldNames fields ms)) :: others
    | some v => return (.text name, v) :: others

/-- Adds the variables that belong to no section; only a file may not hold such ones. -/
def withOthers (vs : Variables) (outline : Outline) (found : Members) : Members :=
  let isUsed (n : String) : Bool :=
    outline.any fun (name, _) => n = name || (after? (namePrefix ++ name) n).isSome
  vs.foldl (fun ms (n, v) =>
    match v with
    | none | some "" => ms
    | some s => if isUsed n then ms else Value.setMember ms (.text n) (.text s)) found

end Variables

/-! ## Sections -/

/-- A section of settings. -/
structure Section (α : Type) where
  /-- Its name. -/
  name : String
  /-- The name of its kind. -/
  kind : String
  /-- The names of its fields. -/
  fields : List String
  /-- What its members have to be. -/
  check : Members → Checked α

namespace Section

variable {α : Type}

/-- The name of a section with the names of its fields. -/
def outline (s : Section α) : String × List String := (s.name, s.fields)

/-- The fields that stand in variables of the same names. -/
def fromVariables (s : Section α) (vs : Variables) : Members :=
  s.fields.filterMap fun f => (vs.valueOf? f).map fun v => (.text f, .text v)

/-- Builds a section from the members that are given and from variables. -/
def build (s : Section α) (vs : Variables) (given : Members) : Checked α :=
  let ms := mergeMembers (s.fromVariables vs) given
  ((s.check ms).both (closed s.fields ms)).map (·.1)

/-- The section in a list of sections. If it is not there it is built from variables alone, and
then complaints end the search. -/
def fill (s : Section α) (vs : Variables) (all : Members) :
    Except (List Complaint) (Checked α) :=
  match Value.memberOf? all (.text s.name) with
  | some v => .ok ((record s.kind (s.build vs) v).within (.member s.name))
  | none =>
    match s.build vs [] with
    | .accepted a => .ok (.accepted a)
    | .rejected cs => .error cs

end Section

end MessageRouting.Settings
