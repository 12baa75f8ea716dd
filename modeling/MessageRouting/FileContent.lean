import MessageRouting.FileTree

/-!
# Contents of files

What stands at a path, and the text that the bytes of a file encode.
-/

namespace MessageRouting

/-- What stands at a path. -/
inductive FileContent where
  /-- Nothing. -/
  | missing
  /-- Something that the system does not let a program read. -/
  | refused (fault : TreeFault)
  /-- A file with these bytes. -/
  | bytes (data : ByteArray)

namespace FileContent

/-- Writes every line break as a line feed. -/
def plainBreaks : List Char → List Char
  | '\r' :: '\n' :: rest => '\n' :: plainBreaks rest
  | '\r' :: rest => '\n' :: plainBreaks rest
  | c :: rest => c :: plainBreaks rest
  | [] => []

/-- The text that bytes encode. -/
def decode? (data : ByteArray) : Option (List Char) :=
  (String.fromUTF8? data).map fun s => plainBreaks s.toList

end FileContent

/-- What stands at a path of a tree. A path leads to nothing, or it cannot be told whether it does,
or to something that can be read or not. -/
def FileTree.content (t : FileTree) (p : FilePath) : FileContent :=
  match t.entry p with
  | .error f => if f.isAbsence then .missing else .refused f
  | .ok _ =>
    match t.read p with
    | .ok data => .bytes data
    | .error f => .refused f

end MessageRouting
