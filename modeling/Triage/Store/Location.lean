import Triage.Files
import Triage.Store.Codec

/-!
This module contains the places of stores among the files.
-/

namespace Triage
namespace Store

/--
The file of a store and the number of connections to it that may be open at a time.
-/
structure Location where
  path : String
  connections : UInt32
deriving DecidableEq

namespace Location

def memoryPath : String := ":memory:"

/--
Whether a store has no file, and lasts only as long as it is open.
-/
def isTemporary (l : Location) : Bool :=
  l.path = memoryPath || l.path.isEmpty

/--
Why the file of a store is of no use.
-/
inductive Obstacle where
  /-- The directory of the file cannot be made. -/
  | directory (reason : Files.Error)
  /-- No connection may be open. -/
  | noConnection
  /-- A directory stands in the place of the file. -/
  | notFile
  /-- The file holds something else. -/
  | notStore
deriving DecidableEq

def Obstacle.error : Obstacle → Error
  | .directory reason => .connection ("Failed to create database directory: " ++ reason.message)
  | .noConnection =>
    .connection "Failed to connect to database: pool timed out while waiting for an open connection"
  | .notFile =>
    .connection
      "Failed to connect to database: error returned from database: (code: 14) unable to open database file"
  | .notStore =>
    .migration
      "Failed to run migrations: while executing migrations: error returned from database: (code: 26) file is not a database"

/--
The text in the file of a store, which is empty if there is no file yet.
-/
def contents (l : Location) (files : Files) : Except Obstacle String :=
  if l.isTemporary then .ok ""
  else
    match files.locate l.path with
    | .error _ => .error .notFile
    | .ok path =>
      match files.lookup? path with
      | none => .ok ""
      | some (.text text) => .ok text
      | some .binary => .error .notStore
      | some .directory => .error .notFile

/--
The store in its file, which holds nothing if there is no file yet, and the files with the directories of the file.
-/
def load (l : Location) (files : Files) : Except Obstacle (Store × Files) :=
  match files.makeDirectories (Files.origin l.path) (Files.pathNames l.path).dropLast with
  | .error reason => .error (.directory reason)
  | .ok files =>
    if l.connections = 0 then .error .noConnection
    else
      match l.contents files with
      | .error obstacle => .error obstacle
      | .ok text =>
        match ofText? text with
        | some s => .ok (s, files)
        | none => .error .notStore

def save (l : Location) (s : Store) (files : Files) : Files :=
  if l.isTemporary then files else files.write l.path (.text s.toText)

end Location
end Store
end Triage
