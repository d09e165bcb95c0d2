import TenantView.Text.Bytes
import TenantView.Text.Split

/-!
# Files

Files lie in directories, and a path leads to one of them name by name from the current
directory.  Every name but the last must be that of a directory, also if the path goes back from
there at once.  Absolute paths and paths that leave the current directory lead to nothing.
-/

namespace TenantView

/-- What a path may lead to. -/
inductive FileEntry
  | file (content : Bytes)
  | directory
deriving DecidableEq

/-- The entries below the current directory, by the names that lead to them.  The directories on
the way to an entry need no entries of their own. -/
structure Files where
  entries : List (List String × FileEntry)

namespace Files

/-- Why a file cannot be read as text. -/
inductive Error
  | notFound
  | notDirectory
  | isDirectory
  | nameTooLong
  | nulInName
  | notText
deriving DecidableEq, Repr

/-- The wording of an error. -/
def Error.message : Error → String
  | notFound => "No such file or directory (os error 2)"
  | notDirectory => "Not a directory (os error 20)"
  | isDirectory => "Is a directory (os error 21)"
  | nameTooLong => "File name too long (os error 36)"
  | nulInName => "file name contained an unexpected NUL byte"
  | notText => "stream did not contain valid UTF-8"

/-- The names that a relative path goes through; the empty name and `.` stay where they are. -/
def pathNames (path : String) : List String :=
  (Text.splitAt '/' path.toList).map String.ofList

/-- The files with the given entries. -/
def ofList (entries : List (String × FileEntry)) : Files where
  entries := entries.map fun (path, entry) ↦
    ((pathNames path).filter fun name ↦ name ≠ "" && name ≠ ".", entry)

/-- What lies at the end of names. -/
def at? (files : Files) (names : List String) : Option FileEntry :=
  if names.isEmpty then some .directory
  else
    match files.entries.lookup names with
    | some entry => some entry
    | none => if files.entries.any (names.isPrefixOf ·.1) then some .directory else none

/-- The longest name that a directory may hold, in bytes. -/
def maxName : Nat := 255

/-- The longest path, in bytes. -/
def maxPath : Nat := 4095

/-- Walks on from the directory that `place` leads to, in reverse. -/
def walk (files : Files) (place : List String) (entry : FileEntry) :
    List String → Except Error FileEntry
  | [] => .ok entry
  | name :: names =>
    match entry with
    | .file _ => .error .notDirectory
    | .directory =>
      if name = "" ∨ name = "." then files.walk place .directory names
      else if name = ".." then
        match place with
        | [] => .error .notFound
        | _ :: place => files.walk place .directory names
      else if maxName < name.utf8ByteSize then .error .nameTooLong
      else
        match files.at? (name :: place).reverse with
        | none => .error .notFound
        | some entry => files.walk (name :: place) entry names

/-- What a path leads to. -/
def find (files : Files) (path : String) : Except Error FileEntry :=
  if path.contains '\x00' then .error .nulInName
  else if path = "" ∨ path.startsWith "/" then .error .notFound
  else if maxPath < path.utf8ByteSize then .error .nameTooLong
  else files.walk [] .directory (pathNames path)

/-- Whether a path leads to anything. -/
def doesExist (files : Files) (path : String) : Bool :=
  match files.find path with
  | .ok _ => true
  | .error _ => false

/-- The text of the file that a path leads to. -/
def readText (files : Files) (path : String) : Except Error String :=
  match files.find path with
  | .error error => .error error
  | .ok .directory => .error .isDirectory
  | .ok (.file content) =>
    match Text.ofBytes? content with
    | some text => .ok text
    | none => .error .notText

end Files

end TenantView
