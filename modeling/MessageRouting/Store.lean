import MessageRouting.FileTree
import MessageRouting.Store.Codec
import MessageRouting.Text.Lowercase

/-!
# Stores

A store keeps a collection of rules between uses, in memory or in a file. A file is replaced as a
whole: the new text goes to a file beside it, which then takes its place, so a save that fails
leaves the rules as they were. What is there and cannot be loaded counts as no rules, and so does
nothing; but if the system does not tell whether anything is there, a load fails.
-/

namespace MessageRouting

/-- A store. -/
inductive Store where
  /-- Rules in memory. -/
  | memory (rules : List Rule)
  /-- Rules in a file. -/
  | file (path : FilePath)

namespace Store

/-- Why a store cannot do what it is asked to do. -/
inductive Fault where
  /-- The file cannot be written. -/
  | unwritable (path : FilePath)
  /-- The file cannot be removed. -/
  | unremovable (path : FilePath)
  /-- It cannot be told whether the file is there. -/
  | unreachable (path : FilePath) (fault : TreeFault)
  /-- The path has a null character. -/
  | nullCharacter
  /-- The path has no name. -/
  | noName (path : FilePath)
  /-- The rules have no text. -/
  | data (fault : MessageRouting.Fault)
  /-- There are no stores of this kind. -/
  | unknownKind (kind : String)

namespace Fault

/-- The wording of a fault. -/
def message : Fault → String
  | unwritable path => "Failed to save rules to " ++ path.text
  | unremovable path => "Failed to clear " ++ path.text
  | unreachable path f => f.message path
  | nullCharacter => TreeFault.nullCharacter.message default
  | noName path =>
    "PosixPath(" ++ String.ofList (Text.Quoted.literal path.text.toList) ++ ") has an empty name"
  | data f => f.message
  | unknownKind kind => "Unsupported storage type: " ++ kind

/-- The name of the kind of a fault. -/
def name : Fault → String
  | unwritable _ | unremovable _ => "StorageError"
  | unreachable _ f => f.name
  | nullCharacter => TreeFault.nullCharacter.name
  | noName _ | unknownKind _ => "ValueError"
  | data f => f.name

/-- What a fault of the system is for a store: it is reported as the given one, but for a null
character, which no system is asked about. -/
def ofTree (reported : Fault) : TreeFault → Fault
  | .nullCharacter => nullCharacter
  | _ => reported

end Fault

/-! ## Files -/

/-- The path of the file that is written before it takes the place of another. -/
def draftPath (path : FilePath) : FilePath := path.extended ".tmp"

/-- Writes a text to a file, by way of the file beside it. The tree is given also if it fails. -/
def replaceFile (path : FilePath) (text : List Char) (t : FileTree) :
    FileTree × Except Fault Unit :=
  match t.write (draftPath path) (String.ofList text).toUTF8 with
  | (t, .error f) => (t, .error (.ofTree (.unwritable path) f))
  | (t, .ok ()) =>
    match t.rename (draftPath path) path with
    | .error f => (t, .error (.ofTree (.unwritable path) f))
    | .ok t => (t, .ok ())

/-- Removes a file; it need not be there. -/
def clearFile (path : FilePath) (t : FileTree) : FileTree × Except Fault Unit :=
  match t.unlink path with
  | .ok t => (t, .ok ())
  | .error .missing => (t, .ok ())
  | .error f => (t, .error (.ofTree (.unremovable path) f))

section Rules

variable [Interpreter]

/-- Saves rules in a file. -/
def saveFile (path : FilePath) (rules : List Rule) (t : FileTree) : FileTree × Except Fault Unit :=
  match t.makeDirectories path.parent with
  | (t, .error f) => (t, .error (.ofTree (.unwritable path) f))
  | (t, .ok ()) =>
    if path.name = "" then (t, .error (.noName path))
    else
      match Codec.encode rules with
      | .error f => (t, .error (.data f))
      | .ok text => replaceFile path text t

/-- Loads rules from a file. -/
def loadFile (path : FilePath) (t : FileTree) : Except Fault (List Rule) :=
  match t.entry path with
  | .error f => if f.isAbsence then .ok [] else .error (.unreachable path f)
  | .ok _ =>
    match t.read path with
    | .ok data => .ok (Codec.decodeBytes data)
    | .error _ => .ok []

end Rules

/-! ## Stores -/

/-- A store and the files around it. -/
structure State where
  /-- The store. -/
  store : Store
  /-- The files. -/
  files : FileTree

section Operations

variable [Interpreter]

/-- Saves rules. -/
def save (rules : List Rule) (s : State) : State × Except Fault Unit :=
  match s.store with
  | .memory _ => ({ s with store := .memory rules }, .ok ())
  | .file path =>
    let (files, done) := saveFile path rules s.files
    ({ s with files := files }, done)

/-- Loads the rules. -/
def load (s : State) : Except Fault (List Rule) :=
  match s.store with
  | .memory rules => .ok rules
  | .file path => loadFile path s.files

end Operations

/-- Drops the rules. -/
def clear (s : State) : State × Except Fault Unit :=
  match s.store with
  | .memory _ => ({ s with store := .memory [] }, .ok ())
  | .file path =>
    let (files, done) := clearFile path s.files
    ({ s with files := files }, done)

/-- A store of a kind, whose name can be in any case. -/
def ofKind (kind path : String) : Except Fault Store :=
  let lowered := String.ofList (Text.lower kind.toList)
  if lowered = "file" then .ok (.file (.ofString path))
  else if lowered = "memory" then .ok (.memory [])
  else .error (.unknownKind lowered)

end Store

end MessageRouting
