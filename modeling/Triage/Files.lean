/-!
This module contains a tree of files, which stands for the part of a file system that the program reads.
-/

namespace Triage

/--
What stands at a path.
-/
inductive Files.Entry where
  | text (s : String)
  /-- A file whose bytes are no text. -/
  | binary
  | directory
deriving DecidableEq

/--
A tree of files: what stands at which path. A path is the list of its names; the directories on the way to an
entry are entries too, but for the root, the start and the directories above it.
-/
structure Files where
  entries : List (List String × Files.Entry)

namespace Files

/--
Why a file cannot be read, or a directory cannot be made.
-/
inductive Error where
  | missing
  | occupied
  | notDirectory
  | isDirectory
  | notText
deriving DecidableEq

def Error.message : Error → String
  | missing => "No such file or directory (os error 2)"
  | occupied => "File exists (os error 17)"
  | notDirectory => "Not a directory (os error 20)"
  | isDirectory => "Is a directory (os error 21)"
  | notText => "stream did not contain valid UTF-8"

def none : Files := ⟨[]⟩

/--
Whether a path is the root, the start or a directory above it. These are always there.
-/
def isOutermost (path : List String) : Bool :=
  path = ["/"] || path.all (· = "..")

/--
What stands at a path.
-/
def lookup? (files : Files) (path : List String) : Option Entry :=
  if isOutermost path then some .directory else files.entries.lookup path

/--
The path of the directory above a path. The one above the start has a name, and the root has none above it.
-/
def above (path : List String) : List String :=
  if path = ["/"] then path
  else if path.isEmpty ∨ path.getLast? = some ".." then path ++ [".."]
  else path.dropLast

/--
Where a name leads from a directory.
-/
def follow (path : List String) (name : String) : List String :=
  if name = ".." then above path else path ++ [name]

/--
Whether a part of a text that describes a path is a name, and does not stay where it is.
-/
def isName (part : String) : Bool :=
  part ≠ "" ∧ part ≠ "."

/--
A path followed from a directory on. A name can only follow a directory; `.` stays and `..` goes back.
-/
def walk (files : Files) (path : List String) : List String → Except Error (List String)
  | [] => .ok path
  | name :: names =>
    match files.lookup? path with
    | some .directory =>
      if isName name then files.walk (follow path name) names else files.walk path names
    | some _ => .error .notDirectory
    | Option.none => .error .missing

/--
Where the path that a text describes starts: here, or at the root, which has the name `/`.
-/
def origin (path : String) : List String :=
  if path.toList.head? = some '/' then ["/"] else []

/--
The parts of a text that describes a path.
-/
def parts (path : String) : List String :=
  (path.toList.splitOn '/').map String.ofList

/--
The parts of a text that describes a path which are names.
-/
def pathNames (path : String) : List String :=
  (parts path).filter isName

/--
The path that a text describes.
-/
def locate (files : Files) (path : String) : Except Error (List String) :=
  if path.isEmpty then .error .missing else files.walk (origin path) (parts path)

def find (files : Files) (path : String) : Except Error Entry := do
  match files.lookup? (← files.locate path) with
  | some entry => .ok entry
  | Option.none => .error .missing

def read (files : Files) (path : String) : Except Error String := do
  match ← files.find path with
  | .text s => .ok s
  | .binary => .error .notText
  | .directory => .error .isDirectory

/--
Whether there is a file, and not a directory, at a path.
-/
def isFile (files : Files) (path : String) : Bool :=
  match files.find path with
  | .ok .directory | .error _ => false
  | .ok _ => true

def names (files : Files) (directory : String) : List String :=
  match files.locate directory with
  | .error _ => []
  | .ok path =>
    files.entries.filterMap fun (other, _) =>
      if other.dropLast = path then other.getLast? else Option.none

def put (files : Files) (path : List String) (entry : Entry) : Files :=
  ⟨(path, entry) :: files.entries.filter (·.1 ≠ path)⟩

/--
Put an entry at the path that a text describes, with all directories on the way to it.
-/
def write (files : Files) (path : String) (entry : Entry) : Files :=
  let names := (pathNames path).foldl follow (origin path)
  let parents := (List.range names.length).map names.take
  let files := parents.foldl
    (fun files parent => if (files.lookup? parent).isNone then files.put parent .directory else files) files
  files.put names entry

/--
Make the directories with the given names, each in the one before it, where they are missing.
-/
def makeDirectories (files : Files) (path : List String) : List String → Except Error Files
  | [] => .ok files
  | name :: names =>
    if name = ".." then files.makeDirectories (above path) names
    else
      let path := path ++ [name]
      match files.lookup? path with
      | Option.none => (files.put path .directory).makeDirectories path names
      | some .directory => files.makeDirectories path names
      | some _ => .error (if names.isEmpty then .occupied else .notDirectory)

def delete (files : Files) (path : String) : Files :=
  match files.locate path with
  | .error _ => files
  | .ok path => ⟨files.entries.filter (·.1 ≠ path)⟩

/--
The path of a name in a directory. A name that starts at the root leaves the directory.
-/
def join (directory name : String) : String :=
  if directory.isEmpty || name.startsWith "/" then name
  else if directory.endsWith "/" then directory ++ name
  else directory ++ "/" ++ name

end Files
end Triage
