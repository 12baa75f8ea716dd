import MessageRouting.FilePath
import MessageRouting.Text.Quoted

/-!
# File trees

A file tree is what a program finds in a file system: directories, files and links by their places,
the lists of names that lead to them from the root. A file can stand at several places, so it has a
number, and what it holds is kept under that number. A path is followed name by name: two dots lead
back, and a link on the way is followed in its turn. Everything can be refused by the system: to
look into a directory, to change what stands at a place, to read or to write a file, a name or a
path that is too long.

Writing to one place leaves all others as they are (`find?_put_of_ne`, `find?_remove_of_ne`), and
filling one file leaves all others as they are (`file?_fill_of_ne`).
-/

namespace MessageRouting

/-- A place: the names that lead to it from the root, none of which is that of a link. -/
abbrev FilePlace := List String

/-- What stands at a place. -/
inductive FileEntry where
  /-- A directory. -/
  | directory
  /-- The file of a number. -/
  | file (id : Nat)
  /-- A link to a path. -/
  | link (target : FilePath)
deriving DecidableEq, Inhabited

/-- A file. -/
structure FileData where
  /-- What it holds. -/
  bytes : ByteArray
  /-- Whether it may be read. -/
  readable : Bool
  /-- Whether it may be written. -/
  writable : Bool
deriving Inhabited

/-- What a system lets a program do. -/
structure FileAccess where
  /-- Whether names may be looked up in the directory at a place. -/
  searches : FilePlace → Bool
  /-- Whether an entry may be made, replaced and removed at a place. -/
  changes : FilePlace → Bool
  /-- Whether files that are made may be read. -/
  readsMade : Bool
  /-- Whether files that are made may be written again. -/
  writesMade : Bool
  /-- How many bytes a file can hold. -/
  fileRoom : Nat
  /-- How many bytes a name can have. -/
  nameRoom : Nat
  /-- How many bytes a path can have. -/
  pathRoom : Nat

/-- Why the system does not do what it is asked to do. -/
inductive TreeFault where
  /-- Nothing is there. -/
  | missing
  /-- Something is there already. -/
  | taken
  /-- A file stands where a directory should. -/
  | notDirectory
  /-- A directory stands where a file should. -/
  | isDirectory
  /-- It is not allowed. -/
  | denied
  /-- A name or a path is too long. -/
  | tooLong
  /-- Links lead to links without an end. -/
  | loop
  /-- A file would be too large. -/
  | noRoom
  /-- A path has a null character. -/
  | nullCharacter
deriving DecidableEq, Repr

namespace FileAccess

/-- All is allowed. -/
def free : FileAccess where
  searches _ := true
  changes _ := true
  readsMade := true
  writesMade := true
  fileRoom := Nat.pow 2 63 - 1
  nameRoom := 255
  pathRoom := 4095

end FileAccess

namespace TreeFault

/-- The wording of a fault at a path. -/
def message (path : FilePath) (f : TreeFault) : String :=
  let quoted := ": " ++ String.ofList (Text.Quoted.literal path.text.toList)
  match f with
  | missing => "[Errno 2] No such file or directory" ++ quoted
  | taken => "[Errno 17] File exists" ++ quoted
  | notDirectory => "[Errno 20] Not a directory" ++ quoted
  | isDirectory => "[Errno 21] Is a directory" ++ quoted
  | denied => "[Errno 13] Permission denied" ++ quoted
  | tooLong => "[Errno 36] File name too long" ++ quoted
  | loop => "[Errno 40] Too many levels of symbolic links" ++ quoted
  | noRoom => "[Errno 27] File too large"
  | nullCharacter => "embedded null byte"

/-- The name of the kind of a fault. -/
def name : TreeFault → String
  | missing => "FileNotFoundError"
  | taken => "FileExistsError"
  | notDirectory => "NotADirectoryError"
  | isDirectory => "IsADirectoryError"
  | denied => "PermissionError"
  | tooLong | loop | noRoom => "OSError"
  | nullCharacter => "ValueError"

/-- Whether a fault says that there is nothing, rather than that it cannot be told what there is. -/
def isAbsence : TreeFault → Bool
  | missing | notDirectory | loop | nullCharacter => true
  | taken | isDirectory | denied | tooLong | noRoom => false

end TreeFault

/-- What stands at places, as far as a program can tell. -/
structure FileTree where
  /-- The entries below the root. -/
  entries : List (FilePlace × FileEntry)
  /-- The files by their numbers. -/
  files : List (Nat × FileData)
  /-- The place from which paths start that do not start at the root. -/
  here : FilePlace
  /-- What is allowed. -/
  access : FileAccess

namespace FileTree

/-- A tree in which all is allowed and nothing stands but the root. -/
def empty : FileTree := ⟨[], [], [], .free⟩

instance : Inhabited FileTree := ⟨empty⟩

/-! ## Entries -/

/-- What stands at a place. -/
def find? (t : FileTree) (place : FilePlace) : Option FileEntry :=
  if place = [] then some .directory else (t.entries.find? fun e => e.1 = place).map (·.2)

/-- Removes what stands at a place. -/
def remove (t : FileTree) (place : FilePlace) : FileTree :=
  { t with entries := t.entries.filter fun e => e.1 ≠ place }

/-- Puts an entry at a place. -/
def put (t : FileTree) (place : FilePlace) (e : FileEntry) : FileTree :=
  { t with entries := (place, e) :: (t.remove place).entries }

@[simp] theorem access_remove (t : FileTree) (p : FilePlace) : (t.remove p).access = t.access := rfl

@[simp] theorem access_put (t : FileTree) (p : FilePlace) (e : FileEntry) :
    (t.put p e).access = t.access := rfl

@[simp] theorem here_remove (t : FileTree) (p : FilePlace) : (t.remove p).here = t.here := rfl

@[simp] theorem here_put (t : FileTree) (p : FilePlace) (e : FileEntry) :
    (t.put p e).here = t.here := rfl

@[simp] theorem files_remove (t : FileTree) (p : FilePlace) : (t.remove p).files = t.files := rfl

@[simp] theorem files_put (t : FileTree) (p : FilePlace) (e : FileEntry) :
    (t.put p e).files = t.files := rfl

@[simp] theorem find?_nil (t : FileTree) : t.find? [] = some .directory := if_pos rfl

theorem find?_remove_of_ne (t : FileTree) {p q : FilePlace} (h : q ≠ p) :
    (t.remove p).find? q = t.find? q := by
  unfold find? remove
  split
  · rfl
  · congr 1
    induction t.entries with
    | nil => rfl
    | cons e es ih =>
      by_cases hp : e.1 = p
      · have hq : e.1 ≠ q := fun hq => h (hq.symm.trans hp)
        simp_all
      · by_cases hq : e.1 = q <;> simp_all

theorem find?_remove_self (t : FileTree) {p : FilePlace} (h : p ≠ []) :
    (t.remove p).find? p = none := by
  simp [find?, remove, h]

theorem find?_put_self (t : FileTree) {p : FilePlace} (e : FileEntry) (h : p ≠ []) :
    (t.put p e).find? p = some e := by
  simp [find?, put, h]

theorem find?_put_of_ne (t : FileTree) {p q : FilePlace} (e : FileEntry) (h : q ≠ p) :
    (t.put p e).find? q = t.find? q := by
  rw [← find?_remove_of_ne t h]
  unfold find? put
  split
  · rfl
  · simp [Ne.symm h]

/-! ## Files -/

/-- The file of a number. -/
def file? (t : FileTree) (id : Nat) : Option FileData :=
  (t.files.find? fun f => f.1 = id).map (·.2)

/-- Sets what the file of a number is. -/
def fill (t : FileTree) (id : Nat) (data : FileData) : FileTree :=
  { t with files := (id, data) :: t.files.filter fun f => f.1 ≠ id }

@[simp] theorem find?_fill (t : FileTree) (id : Nat) (data : FileData) (p : FilePlace) :
    (t.fill id data).find? p = t.find? p := rfl

@[simp] theorem access_fill (t : FileTree) (id : Nat) (data : FileData) :
    (t.fill id data).access = t.access := rfl

@[simp] theorem here_fill (t : FileTree) (id : Nat) (data : FileData) :
    (t.fill id data).here = t.here := rfl

@[simp] theorem file?_put (t : FileTree) (p : FilePlace) (e : FileEntry) (id : Nat) :
    (t.put p e).file? id = t.file? id := rfl

@[simp] theorem file?_remove (t : FileTree) (p : FilePlace) (id : Nat) :
    (t.remove p).file? id = t.file? id := rfl

@[simp] theorem file?_fill_self (t : FileTree) (id : Nat) (data : FileData) :
    (t.fill id data).file? id = some data := by
  simp [file?, fill]

theorem file?_fill_of_ne (t : FileTree) {id other : Nat} (data : FileData) (h : other ≠ id) :
    (t.fill id data).file? other = t.file? other := by
  unfold file? fill
  simp only [List.find?_cons, decide_eq_false (Ne.symm h)]
  congr 1
  induction t.files with
  | nil => rfl
  | cons f fs ih =>
    by_cases hid : f.1 = id
    · have hother : f.1 ≠ other := fun hother => h (hother.symm.trans hid)
      simp_all
    · by_cases hother : f.1 = other <;> simp_all

/-- A number above that of an entry, if it is a file. -/
def above : FileEntry → Nat
  | .file id => id + 1
  | .directory | .link _ => 0

/-- The least number that is above those of all entries. -/
def bound : List (FilePlace × FileEntry) → Nat
  | [] => 0
  | e :: es => max (above e.2) (bound es)

theorem above_le_bound {es : List (FilePlace × FileEntry)} {e : FilePlace × FileEntry}
    (h : e ∈ es) : above e.2 ≤ bound es := by
  induction es with
  | nil => cases h
  | cons f fs ih =>
    rcases List.mem_cons.1 h with rfl | h
    · exact Nat.le_max_left _ _
    · exact Nat.le_trans (ih h) (Nat.le_max_right _ _)

/-- A number that no entry has. -/
def unused (t : FileTree) : Nat := bound t.entries

theorem lt_unused {t : FileTree} {p : FilePlace} {id : Nat} (h : t.find? p = some (.file id)) :
    id < t.unused := by
  unfold find? at h
  split at h
  · cases h
  · obtain ⟨e, he, hfile⟩ := Option.map_eq_some_iff.1 h
    have hbound := above_le_bound (List.mem_of_find?_eq_some he)
    rwa [hfile] at hbound

/-! ## Ways -/

/-- The place of a name in a directory. -/
def child (here : FilePlace) (n : String) : FilePlace :=
  if n = ".." then here.dropLast else here ++ [n]

/-- Looks up a name in the directory at a place. -/
def step (t : FileTree) (here : FilePlace) (n : String) : Except TreeFault FilePlace :=
  match t.find? here with
  | none => .error .missing
  | some .directory =>
    if t.access.searches here = false then .error .denied
    else if t.access.nameRoom < n.utf8ByteSize then .error .tooLong
    else .ok (child here n)
  | some _ => .error .notDirectory

/-- Where the target of a link in a directory starts. -/
def start (target : FilePath) (here : FilePlace) : FilePlace :=
  if target.absolute then [] else here

/-- The place that names lead to from a directory. A link on the way is followed as `turn` says, and
so is one at the end if it is to be followed. -/
def along (t : FileTree) (follow : Bool)
    (turn : FilePlace → List String → Except TreeFault FilePlace) (here : FilePlace) :
    List String → Except TreeFault FilePlace
  | [] => .ok here
  | n :: ns =>
    match t.step here n with
    | .error f => .error f
    | .ok next =>
      match t.find? next with
      | some (.link target) =>
        if ns = [] && !follow then .ok next else turn (start target here) (target.names ++ ns)
      | _ => along t follow turn next ns

/-- The place that names lead to from a directory, through no more links than the given number. -/
def walk (t : FileTree) (follow : Bool) : Nat → FilePlace → List String → Except TreeFault FilePlace
  | 0 => t.along follow fun _ _ => .error .loop
  | links + 1 => t.along follow (t.walk follow links)

/-- The most links on a way. -/
def maxLinks : Nat := 40

/-- The place that a path leads to; a link at its end is followed or not. -/
def resolve (t : FileTree) (follow : Bool) (p : FilePath) : Except TreeFault FilePlace :=
  if p.names.any (·.toList.contains '\x00') then .error .nullCharacter
  else if t.access.pathRoom < p.text.utf8ByteSize then .error .tooLong
  else t.walk follow maxLinks (start p t.here) p.names

/-! ## Operations -/

/-- What stands at a path. -/
def entry (t : FileTree) (p : FilePath) : Except TreeFault FileEntry :=
  match t.resolve true p with
  | .error f => .error f
  | .ok place =>
    match t.find? place with
    | some e => .ok e
    | none => .error .missing

/-- Whether a directory stands at a path. -/
def isDirectory (t : FileTree) (p : FilePath) : Bool :=
  match t.entry p with
  | .ok .directory => true
  | _ => false

/-- The bytes of a file. -/
def read (t : FileTree) (p : FilePath) : Except TreeFault ByteArray :=
  match t.entry p with
  | .error f => .error f
  | .ok (.file id) =>
    match t.file? id with
    | some data => if data.readable then .ok data.bytes else .error .denied
    | none => .error .missing
  | .ok _ => .error .isDirectory

/-- The number of the file at a path, for writing. It is made if it is not there. -/
def openFile (t : FileTree) (p : FilePath) : Except TreeFault (FileTree × Nat) :=
  match t.resolve true p with
  | .error f => .error f
  | .ok place =>
    match t.find? place with
    | some (.file id) =>
      match t.file? id with
      | some data => if data.writable then .ok (t, id) else .error .denied
      | none => .error .missing
    | some _ => .error .isDirectory
    | none =>
      if t.access.changes place then
        .ok ((t.put place (.file t.unused)).fill t.unused
          ⟨.empty, t.access.readsMade, t.access.writesMade⟩, t.unused)
      else .error .denied

/-- Writes a file. If it cannot hold all, it holds the first bytes. -/
def write (t : FileTree) (p : FilePath) (bytes : ByteArray) : FileTree × Except TreeFault Unit :=
  match t.openFile p with
  | .error f => (t, .error f)
  | .ok (t, id) =>
    (t.fill id { (t.file? id).getD default with bytes := bytes.extract 0 t.access.fileRoom },
      if bytes.size ≤ t.access.fileRoom then .ok () else .error .noRoom)

/-- Whether two entries are one file. -/
def isSameFile : FileEntry → FileEntry → Bool
  | .file id, .file other => id = other
  | _, _ => false

/-- Moves a file or a link, over another one if there is one. Two places of one file stay. -/
def rename (t : FileTree) (source target : FilePath) : Except TreeFault FileTree :=
  match t.resolve false source, t.resolve false target with
  | .error f, _ | .ok _, .error f => .error f
  | .ok p, .ok q =>
    match t.find? p, t.find? q with
    | none, _ => .error .missing
    | some .directory, _ | some _, some .directory => .error .isDirectory
    | some e, other =>
      if p = q || other.any (isSameFile e) then .ok t
      else if t.access.changes p && t.access.changes q then .ok ((t.remove p).put q e)
      else .error .denied

/-- Removes a file or a link. -/
def unlink (t : FileTree) (p : FilePath) : Except TreeFault FileTree :=
  match t.resolve false p with
  | .error f => .error f
  | .ok place =>
    match t.find? place with
    | none => .error .missing
    | some .directory => .error .isDirectory
    | some _ => if t.access.changes place then .ok (t.remove place) else .error .denied

/-! ## Making directories -/

/-- Makes a directory. -/
def makeDirectory (t : FileTree) (p : FilePath) : Except TreeFault FileTree :=
  match t.resolve false p with
  | .error f => .error f
  | .ok place =>
    match t.find? place with
    | some _ => .error .taken
    | none =>
      if t.access.changes place then .ok (t.put place .directory) else .error .denied

/-- A directory that cannot be made need not be made if it is there. -/
def unlessThere (t : FileTree) (p : FilePath) (f : TreeFault) : Except TreeFault Unit :=
  if t.isDirectory p then .ok () else .error f

/-- Makes a directory, unless it is there. -/
def ensureDirectory (t : FileTree) (p : FilePath) : FileTree × Except TreeFault Unit :=
  match t.makeDirectory p with
  | .ok t => (t, .ok ())
  | .error f => (t, t.unlessThere p f)

/-- Makes a directory, unless it is there, and those around it where they are missing. The names
stand in backward order. If it fails, the directories that were made are left. -/
def makeWay (t : FileTree) (absolute : Bool) : List String → FileTree × Except TreeFault Unit
  | [] => t.ensureDirectory ⟨absolute, []⟩
  | n :: front =>
    let p : FilePath := ⟨absolute, (n :: front).reverse⟩
    match t.makeDirectory p with
    | .ok t => (t, .ok ())
    | .error .missing =>
      match makeWay t absolute front with
      | (t, .error f) => (t, .error f)
      | (t, .ok ()) => t.ensureDirectory p
    | .error f => (t, t.unlessThere p f)

/-- Makes a directory, unless it is there, and those around it where they are missing. -/
def makeDirectories (t : FileTree) (p : FilePath) : FileTree × Except TreeFault Unit :=
  t.makeWay p.absolute p.names.reverse

/-! ## Listing -/

/-- The names of an entry below the working directory; those of a directory end with a slash. -/
def entryText? (t : FileTree) (e : FilePlace × FileEntry) : Option String :=
  if t.here.isPrefixOf e.1 && e.1 ≠ t.here then
    some ("/".intercalate (e.1.drop t.here.length) ++ if e.2 = .directory then "/" else "")
  else none

/-- All entries below the working directory as text, in order. -/
def listing (t : FileTree) : List String := (t.entries.filterMap t.entryText?).mergeSort (· ≤ ·)

end FileTree

end MessageRouting
