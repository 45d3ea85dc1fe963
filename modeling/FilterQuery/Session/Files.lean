import FilterQuery.Keyed

/-!
# Files as a session reads them

Reading a file gives its text or the reason why there is none. A folder holds some files and empty
subfolders; a path leads to one of them, with `.` for the folder itself and `..` for the folder
around it. The steps of a path are followed from left to right, and the first one that fails is the
reason.
-/

namespace FilterQuery.Session

inductive ReadFailure
  | notFound
  | notFolder
  | isFolder
  | nameTooLong
  | nameWithNull
  | notText
  | other (reason : String)
deriving DecidableEq, Repr

namespace ReadFailure

def message : ReadFailure → String
  | .notFound => "No such file or directory (os error 2)"
  | .notFolder => "Not a directory (os error 20)"
  | .isFolder => "Is a directory (os error 21)"
  | .nameTooLong => "File name too long (os error 36)"
  | .nameWithNull => "file name contained an unexpected NUL byte"
  | .notText => "stream did not contain valid UTF-8"
  | .other reason => reason

/-- Whether there is nothing at the path at all. -/
def isAbsence : ReadFailure → Bool
  | .notFound => true
  | .notFolder => true
  | .nameTooLong => true
  | .nameWithNull => true
  | .isFolder => false
  | .notText => false
  | .other _ => false

end ReadFailure

/-- The text of a file, or why it cannot be read. -/
abbrev Content := Except ReadFailure String

/-- Reads the file at a path. -/
abbrev Files := String → Content

/-- The most bytes that the name of a file may have. -/
def nameLimit : Nat := 255

/-- The most bytes that a path may have. -/
def pathLimit : Nat := 4095

/-- The fault of a path that no file can have. -/
def pathFault? (path : String) : Option ReadFailure :=
  if '\x00' ∈ path.toList then some .nameWithNull
  else if pathLimit < path.utf8ByteSize then some .nameTooLong
  else none

/-- The files and empty subfolders of a folder, by name. -/
abbrev Folder := Keyed Content

namespace Folder

/-- Why there is nothing under a name. -/
def absence (name : String) : ReadFailure :=
  if nameLimit < name.utf8ByteSize then .nameTooLong else .notFound

/-- Follows the steps of a path; `isOpen` says that it goes on behind the last name. -/
def follow (folder : Folder) (isOpen : Bool) : List String → Content
  | [] => .error .isFolder
  | ".." :: rest =>
    match rest.dropWhile (· == "..") with
    | [] => .error .isFolder
    | name :: _ => .error (absence name)
  | name :: rest =>
    match List.lookup name folder, rest with
    | none, _ => .error (absence name)
    | some (.error .isFolder), [] => .error .isFolder
    | some (.error .isFolder), ".." :: rest => follow folder isOpen rest
    | some (.error .isFolder), name :: _ => .error (absence name)
    | some content, [] => if isOpen then .error .notFolder else content
    | some _, _ :: _ => .error .notFolder

/-- What a path that is relative to the folder leads to. -/
def read (folder : Folder) : Files := fun path ↦
  match pathFault? path with
  | some fault => .error fault
  | none =>
    let steps := path.splitOn "/"
    let names := steps.filter fun step ↦ step != "" && step != "."
    if path = "" then .error .notFound
    else if steps.head? = some "" then Folder.follow [] true (".." :: names)
    else folder.follow (steps.getLast? = some "" || steps.getLast? = some ".") names

end Folder

end FilterQuery.Session
