/-
Files and directories, as data.

What reading a file gives depends on the path: it is followed name by name from the
current directory, and each name but the last has to be a directory.  Above the top of
the tree there are directories of which nothing is known.
-/
import Adventure.Failure
import Adventure.Text.Lines

namespace Adventure

/-- Why a file cannot be read. -/
inductive ReadFault where
  | notFound
  | notDirectory
  | isDirectory
  | nameTooLong
  | nulInName
  | notText
  /-- Anything else, in the words of the system. -/
  | other (message : String)
  deriving DecidableEq, Repr

namespace ReadFault

/-- The fault in words. -/
def message : ReadFault → String
  | notFound => "No such file or directory (os error 2)"
  | notDirectory => "Not a directory (os error 20)"
  | isDirectory => "Is a directory (os error 21)"
  | nameTooLong => "File name too long (os error 36)"
  | nulInName => "file name contained an unexpected NUL byte"
  | notText => Failure.notText
  | other message => message

end ReadFault

/-- What a name in the tree stands for. -/
inductive Entry where
  | directory
  | file (contents : List UInt8)

/-- The entries of a tree by the names on the way to them. -/
structure FileTree where
  entries : List (List String × Entry) := []

namespace FileTree

/-- The names of a path; empty names and dots lead nowhere. -/
def names (path : String) : List String :=
  ((path.splitOn "/").filter fun name => name != "" && name != ".")

/-- The entry at some names; the top is a directory. -/
def find? (t : FileTree) (place : List String) : Option Entry :=
  if place.isEmpty then some .directory else t.entries.lookup place

/-- Adds an entry, unless there is one. -/
def add (t : FileTree) (place : List String) (entry : Entry) : FileTree :=
  if (t.find? place).isSome then t else ⟨t.entries ++ [(place, entry)]⟩

/-- Adds the directories on the way to a place. -/
def addParents (t : FileTree) (place : List String) : FileTree :=
  (List.range place.length).foldl (fun t n => t.add (place.take n) .directory) t

/-- Makes a directory and those it is in. -/
def mkdir (t : FileTree) (path : String) : FileTree :=
  (t.addParents (names path)).add (names path) .directory

/-- Writes a file and makes the directories it is in. -/
def write (t : FileTree) (path : String) (contents : List UInt8) : FileTree :=
  (t.addParents (names path)).add (names path) (.file contents)

/-- Follows names from a place in the tree, or from outside of it. -/
def walk (t : FileTree) : Option (List String) → List String → Except ReadFault Entry
  | none, names =>
    if names.all fun name => name == "" || name == "." || name == ".." then .ok .directory
    else .error .notFound
  | some place, [] =>
    match t.find? place with
    | some entry => .ok entry
    | none => .error .notFound
  | some place, name :: rest =>
    match t.find? place with
    | some .directory =>
      if name == "" || name == "." then t.walk (some place) rest
      else if name == ".." then
        t.walk (if place.isEmpty then none else some place.dropLast) rest
      else if name.utf8ByteSize > 255 then .error .nameTooLong
      else t.walk (some (place ++ [name])) rest
    | some (.file _) => .error .notDirectory
    | none => .error .notFound

/-- The entry at a path. -/
def resolve (t : FileTree) (path : String) : Except ReadFault Entry :=
  if path.contains (Char.ofNat 0) then .error .nulInName
  else if path.isEmpty then .error .notFound
  else if path.utf8ByteSize ≥ 4096 then .error .nameTooLong
  else t.walk (if path.startsWith "/" then none else some []) (path.splitOn "/")

/-- The text of the file at a path. -/
def readText (t : FileTree) (path : String) : Except ReadFault String := do
  match ← t.resolve path with
  | .directory => throw .isDirectory
  | .file contents =>
    match Text.decode? contents with
    | some text => return text
    | none => throw .notText

end FileTree

end Adventure
