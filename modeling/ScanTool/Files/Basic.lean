/-!
# Files

What the program sees of a file system: for every path, what is found there or why nothing is. The
program never writes.
-/

namespace ScanTool

/-- Why nothing is found under a path, or why what is found cannot be read as text. -/
inductive FileFault where
  /-- There is nothing. -/
  | missing
  /-- The path leads through something that is not a directory. -/
  | notDirectory
  /-- It is a directory. -/
  | directory
  /-- The content is not text. -/
  | notText
  /-- A name on the path is too long. -/
  | nameTooLong
  /-- The path holds a character that no path can hold. -/
  | badName
  deriving DecidableEq, Repr, Inhabited

/-- The wording of a fault. -/
def FileFault.message : FileFault → String
  | missing => "No such file or directory (os error 2)"
  | notDirectory => "Not a directory (os error 20)"
  | directory => "Is a directory (os error 21)"
  | notText => "stream did not contain valid UTF-8"
  | nameTooLong => "File name too long (os error 36)"
  | badName => "file name contained an unexpected NUL byte"

/-- What is found under a path. -/
inductive FileNode where
  /-- A directory with the names in it. -/
  | directory (names : List String)
  /-- A file with text in it. -/
  | text (content : String)
  /-- A file whose content is not text. -/
  | binary
  /-- A serial device. -/
  | device
  deriving DecidableEq, Repr, Inhabited

/-- What is found under every path. -/
abbrev Files := String → Except FileFault FileNode

namespace Files

/-- The text of a file. -/
def read (files : Files) (path : String) : Except FileFault String :=
  match files path with
  | .error fault => .error fault
  | .ok (.text content) => .ok content
  | .ok (.directory _) => .error .directory
  | .ok .binary => .error .notText
  | .ok .device => .error .notText

/-- The names in a directory; none if it is not one. -/
def list (files : Files) (path : String) : List String :=
  match files path with
  | .ok (.directory names) => names
  | _ => []

/-- The path of a name in a directory. -/
def join (dir name : String) : String :=
  if dir.isEmpty then name
  else if dir.toList.getLast? = some '/' then dir ++ name
  else dir ++ "/" ++ name

end Files

end ScanTool
