import Triage.Catalog
import Triage.Files
import Triage.Json.Reader
import Triage.Schema.Error
import Triage.Schema.Library

/-!
This module contains the schemas in a directory of files, and the validation of values by them. The schema
with the name `name` stands in the file `name.json`.
-/

namespace Triage
namespace Schema

def path (directory name : String) : String :=
  Files.join directory (name ++ ".json")

def fetch (library : Library) (files : Files) (directory name : String) : Except Error Document :=
  match files.read (path directory name) with
  | .error _ => .error (.notFound name (path directory name))
  | .ok text =>
    match Json.parse? text with
    | none => .error (.malformed name)
    | some v =>
      match library.compile v with
      | none => .error (.invalidSchema name)
      | some d => .ok d

/--
A directory of schemas, the library that compiles them, and those that were loaded.
-/
structure Validator where
  directory : String
  library : Library := .plain
  catalog : Catalog Document

namespace Validator

def ofLibrary (library : Library) (directory : String) : Validator :=
  ⟨directory, library, Catalog.empty⟩

def ofDirectory (directory : String) : Validator :=
  ofLibrary .plain directory

def load (files : Files) (s : Validator) (name : String) : Except Error Document × Validator :=
  let (result, catalog) := s.catalog.load (fetch s.library files s.directory) name
  (result, { s with catalog := catalog })

def validate (files : Files) (s : Validator) (name : String) (v : Json) : Except Error Unit × Validator :=
  let (result, s) := s.load files name
  match result with
  | .error e => (.error e, s)
  | .ok d =>
    let report := d.report v
    (if report.isEmpty then .ok () else .error (.invalid name report), s)

/--
Whether a value is accepted. Without a schema it is not.
-/
def accepts (files : Files) (s : Validator) (name : String) (v : Json) : Bool × Validator :=
  let (result, s) := s.validate files name v
  (result.toBool, s)

def clear (s : Validator) : Validator :=
  { s with catalog := Catalog.empty }

end Validator
end Schema
end Triage
