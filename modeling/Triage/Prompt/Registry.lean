import Triage.Catalog
import Triage.Files
import Triage.Prompt

/-!
This module contains the prompts in a directory of files. The prompt with the name `id` stands in the file
`id.yaml`.
-/

namespace Triage
namespace Prompt

def fileEnding : String := "yaml"

def path (directory id : String) : String :=
  Files.join directory (id ++ "." ++ fileEnding)

def fetch (files : Files) (directory id : String) : Except Error Spec :=
  let path := path directory id
  if files.isFile path then
    match files.read path with
    | .ok text => Spec.ofYaml id text
    | .error e => .error (.unreadable e.message)
  else
    .error (.notFound id path)

/--
The name of a prompt from the name of its file: everything in front of the last point, which has the ending
of prompts behind it and something in front of it.
-/
def idOfFile? (name : String) : Option String :=
  let cs := name.toList.reverse
  let ending := cs.takeWhile (· != '.')
  let stem := cs.drop (ending.length + 1)
  if ending.reverse = fileEnding.toList ∧ stem ≠ [] then some (String.ofList stem.reverse) else none

def ids (files : Files) (directory : String) : List String :=
  ((files.names directory).filterMap idOfFile?).mergeSort fun a b => decide (a ≤ b)

/--
A directory of prompts with those that were loaded.
-/
structure Registry where
  directory : String
  catalog : Catalog Spec

namespace Registry

def ofDirectory (directory : String) : Registry :=
  ⟨directory, Catalog.empty⟩

def load (files : Files) (r : Registry) (id : String) : Except Error Spec × Registry :=
  let (result, catalog) := r.catalog.load (fetch files r.directory) id
  (result, { r with catalog := catalog })

def count (r : Registry) : Nat :=
  r.catalog.count

def clear (r : Registry) : Registry :=
  { r with catalog := Catalog.empty }

end Registry
end Prompt
end Triage
