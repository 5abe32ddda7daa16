import ScanTool.Files.Basic
import ScanTool.Text.Blank
import ScanTool.Text.Utf8

/-!
# A tree of files

A small file system: the working directory with what has been written into it. A path is walked
component by component, and every component but the last must be a directory. Of what lies outside
the working directory only the directories on the way up are known, and no names in them.
-/

namespace ScanTool

open ScanTool.Text

/-- What stands at a place of the tree. -/
inductive TreeNode where
  /-- A directory. -/
  | directory
  /-- A file. -/
  | file (bytes : List UInt8)
  /-- A serial device. -/
  | device
  deriving DecidableEq, Repr, Inhabited

/-- The nodes below the working directory, each with its place. -/
structure Tree where
  /-- The nodes; the first one at a place counts. -/
  nodes : List (List String × TreeNode)
  deriving Repr, Inhabited

namespace Tree

/-- The empty working directory. -/
def empty : Tree := ⟨[]⟩

/-- Whether a place is the working directory or lies on the way up from it. -/
def isOnWayUp (place : List String) : Bool := place.all (· == "..")

/-- What stands at a place. -/
def at? (t : Tree) (place : List String) : Option TreeNode :=
  if isOnWayUp place then some .directory else t.nodes.lookup place

/-- Puts a node at a place. -/
def put (t : Tree) (place : List String) (node : TreeNode) : Tree :=
  ⟨(place, node) :: t.nodes.filter (·.1 != place)⟩

/-- The components of a path; empty ones and dots are left out. -/
def components (path : String) : List String :=
  ((splitWhen (· == '/') path.toList).map String.ofList).filter fun c => c != "" && c != "."

/-- The places on the way to a place, from the top. -/
def parents (place : List String) : List (List String) :=
  (List.range place.length).map fun n => place.take n

/-- Puts a node at a path and makes the directories above it. -/
def write (t : Tree) (path : String) (node : TreeNode) : Tree :=
  let place := components path
  let t := (parents place).foldl
    (fun t above => if (t.at? above).isSome then t else t.put above .directory) t
  match node, t.at? place with
  | .directory, some .directory => t
  | _, _ => t.put place node

/-- The longest name that a file can have, in octets. -/
def longestName : Nat := 255

/-- The place that components lead to from a place. -/
def walk (t : Tree) (place : List String) : List String → Except FileFault (List String)
  | [] => .ok place
  | c :: rest =>
    match t.at? place with
    | some .directory =>
      if c = ".." then
        walk t (if isOnWayUp place then place ++ [".."] else place.dropLast) rest
      else if longestName < c.utf8ByteSize then .error .nameTooLong
      else if (t.at? (place ++ [c])).isSome then walk t (place ++ [c]) rest
      else .error .missing
    | some _ => .error .notDirectory
    | none => .error .missing

/-- The longest path, in octets, counting the end. -/
def longestPath : Nat := 4096

/-- Whether a path can only lead to a directory, because it ends in a separator or a dot. -/
def namesDirectory (path : String) : Bool :=
  match (splitWhen (· == '/') path.toList).getLast? with
  | some last => last.isEmpty || last == ['.']
  | none => false

/-- The place from which a path is walked: the working directory, or one on the way up if the path
begins at the root. -/
def start (path : String) : List String := if path.toList.head? = some '/' then [".."] else []

/-- The place that a path leads to. -/
def resolve (t : Tree) (path : String) : Except FileFault (List String) :=
  if path.toList.contains '\x00' then .error .badName
  else if path.isEmpty then .error .missing
  else if longestPath ≤ path.utf8ByteSize then .error .nameTooLong
  else
    match t.walk (start path) (components path) with
    | .error fault => .error fault
    | .ok place =>
      if namesDirectory path ∧ t.at? place ≠ some .directory then .error .notDirectory
      else .ok place

/-- The names in a directory. -/
def names (t : Tree) (place : List String) : List String :=
  t.nodes.filterMap fun n =>
    if n.1 ≠ [] ∧ n.1.dropLast = place then n.1.getLast? else none

/-- What is found under every path. -/
def files (t : Tree) : Files := fun path =>
  match t.resolve path with
  | .error fault => .error fault
  | .ok place =>
    match t.at? place with
    | none => .error .missing
    | some .directory => .ok (.directory (t.names place))
    | some .device => .ok .device
    | some (.file bytes) =>
      match String.fromUTF8? ⟨bytes.toArray⟩ with
      | some content => .ok (.text content)
      | none => .ok .binary

/-- Removes a file, if the path leads to one. -/
def remove? (t : Tree) (path : String) : Option Tree :=
  match t.resolve path with
  | .error _ => none
  | .ok place =>
    match t.at? place with
    | some (.file _) => some ⟨t.nodes.filter (·.1 != place)⟩
    | some .device => some ⟨t.nodes.filter (·.1 != place)⟩
    | _ => none

end Tree

end ScanTool
