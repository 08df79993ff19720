import WorkerVitals.File.Content

namespace WorkerVitals.File

/-- Names from the top directory down. -/
abbrev Place := List String

inductive Node where
  | directory
  | file (content : Content)
  deriving DecidableEq, Repr

structure Tree where
  entries : List (Place × Node) := []
  deriving DecidableEq, Repr

/-- The text of bytes in UTF-8. -/
def Content.ofBytes (bytes : ByteArray) : Content :=
  match String.fromUTF8? bytes with
  | some characters => .text characters
  | none => .failed .notUnicode

namespace Tree

/-- The longest name of a file, and the first length of a path that is too long, in bytes. -/
def longestName : Nat := 255

def tooLongPath : Nat := 4096

def node? (tree : Tree) (place : Place) : Option Node :=
  if place = [] then some .directory else tree.entries.lookup place

/-- The directory above a place; `none` is outside of the tree. -/
def parent : Option Place → Option Place
  | some [] | none => none
  | some place => some place.dropLast

def isDirectory (tree : Tree) : Option Place → Bool
  | none => true
  | some place => tree.node? place = some .directory

/-- The names of a path, between slashes. -/
def names (path : String) : List String := (path.splitToList (· == '/'))

/-- Follows names from a place, each of which must be in a directory. -/
def follow (tree : Tree) (here : Option Place) : List String → Except Content (Option Place)
  | [] => .ok here
  | name :: rest =>
    if !tree.isDirectory here then .error (.failed .notDirectory)
    else if name = "" ∨ name = "." then tree.follow here rest
    else if name = ".." then tree.follow (parent here) rest
    else if longestName < name.utf8ByteSize then .error (.failed .nameTooLong)
    else
      match here with
      | none => .error .missing
      | some place =>
        if (tree.node? (place ++ [name])).isSome then tree.follow (some (place ++ [name])) rest
        else .error .missing

/-- Reads the file at a path. The empty path names nothing; a path that begins with a slash begins
outside. -/
def read (tree : Tree) (path : String) : Content :=
  if path.toList.contains '\x00' then .failed .nulInName
  else if path.isEmpty then .missing
  else if tooLongPath ≤ path.utf8ByteSize then .failed .nameTooLong
  else
    match tree.follow (if path.startsWith "/" then none else some []) (names path) with
    | .error content => content
    | .ok none => .failed .isDirectory
    | .ok (some place) =>
      match tree.node? place with
      | none => .missing
      | some .directory => .failed .isDirectory
      | some (.file content) => content

/-- The place that a path names, whether or not something is there. -/
def place? (path : String) : Option Place :=
  (names path).foldl (fun here name =>
    if name = "" ∨ name = "." then here
    else if name = ".." then parent here
    else here.map (· ++ [name])) (some [])

def put (tree : Tree) (place : Place) (node : Node) : Tree :=
  ⟨(place, node) :: tree.entries.filter fun entry => entry.1 ≠ place⟩

/-- Makes the directories from the top down to a place, where nothing is there yet. -/
def makePlace (tree : Tree) (place : Place) : Tree :=
  (List.range place.length).foldl (fun tree depth =>
    let above := place.take (depth + 1)
    if (tree.node? above).isSome then tree else tree.put above .directory) tree

def makeDirectory (tree : Tree) (path : String) : Tree :=
  match place? path with
  | some place => tree.makePlace place
  | none => tree

/-- Writes a file, in directories that are made if need be; nothing takes the place of a
directory. -/
def write (tree : Tree) (path : String) (content : Content) : Tree :=
  match place? path with
  | some place =>
    let tree := tree.makePlace place.dropLast
    if tree.node? place = some .directory then tree else tree.put place (.file content)
  | none => tree

/-- Removes what is at a path, and all below it. -/
def remove (tree : Tree) (path : String) : Tree :=
  match place? path with
  | some place => ⟨tree.entries.filter fun entry => !place.isPrefixOf entry.1⟩
  | none => tree

end Tree

end WorkerVitals.File
