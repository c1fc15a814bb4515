/-!
# Files

Files lie in folders. A path is a row of names with slashes between them; it leads from the working
folder, or from the top where it starts with a slash, through one folder after the other.

## What is here

* `FileError` — why a file cannot be read.
* `Files` — what comes of reading paths.
* `FileTree`, `FileTree.step`, `FileTree.place`, `FileTree.read` — a tree of folders, and how paths
  are followed in it.
-/

set_option autoImplicit false
namespace Whitelist

/-- Why a file cannot be read. -/
inductive FileError where
  | missing
  /-- What should be a folder is a file. -/
  | notFolder
  /-- What should be a file is a folder. -/
  | isFolder
  | nameTooLong
  deriving DecidableEq, Repr

namespace FileError

/-- The number under which an error is known. -/
def number : FileError → Nat
  | missing => 2
  | notFolder => 20
  | isFolder => 21
  | nameTooLong => 36

/-- All errors. -/
def all : List FileError := [missing, notFolder, isFolder, nameTooLong]

/-- What an error says. -/
def cause : FileError → String
  | missing => "No such file or directory"
  | notFolder => "Not a directory"
  | isFolder => "Is a directory"
  | nameTooLong => "File name too long"

/-- The text shown for an error. -/
def message (e : FileError) : String := s!"{e.cause} (os error {e.number})"

end FileError

/-- What comes of reading the file at a path. -/
abbrev Files : Type := String → Except FileError String

/-- A tree of folders. Folders are there where files are in them. -/
structure FileTree where
  /-- The working folder, by the names that lead to it from the top. -/
  start : List String := []
  /-- Files with their texts, by the names that lead to them from the top. -/
  texts : List (List String × String) := []
  deriving DecidableEq, Repr

namespace FileTree

variable (tree : FileTree)

/-- The text of the file at a place. -/
def text? (place : List String) : Option String := tree.texts.lookup place

/-- Whether there is a folder at a place. -/
def hasFolder (place : List String) : Bool :=
  place.isPrefixOf tree.start ||
    tree.texts.any fun (file, _) => place.isPrefixOf file && place ≠ file

/-- The greatest number of bytes in a name. -/
def maxName : Nat := 255

/-- The greatest number of bytes in a path. -/
def maxPath : Nat := 4095

/-- The place that a name leads to. One point leads nowhere, two lead out of the folder. -/
def step (place : List String) (name : String) : Except FileError (List String) :=
  if !tree.hasFolder place then .error .notFolder
  else if name = "" ∨ name = "." then .ok place
  else if name = ".." then .ok place.dropLast
  else if maxName < name.utf8ByteSize then .error .nameTooLong
  else
    let next := place ++ [name]
    if tree.hasFolder next || (tree.text? next).isSome then .ok next else .error .missing

/-- The names in a path. -/
def namesOf (path : String) : List String := (path.toList.splitOn '/').map .ofList

/-- The place that a path leads to. -/
def place (path : String) : Except FileError (List String) :=
  if path = "" then .error .missing
  else if maxPath < path.utf8ByteSize then .error .nameTooLong
  else (namesOf path).foldlM tree.step (if path.startsWith "/" then [] else tree.start)

/-- The text of the file at a path. -/
def read : Files := fun path => do
  let place ← tree.place path
  match tree.text? place with
  | some text => return text
  | none => throw .isFolder

/-- The tree with one more file, at a path from the working folder. Names that lead nowhere do not
count. -/
def add (path text : String) : FileTree :=
  let names := (namesOf path).filter fun name => name ≠ "" && name ≠ "."
  { tree with texts := tree.texts ++ [(tree.start ++ names, text)] }

end FileTree
end Whitelist
