import Std.Time.DateTime.Timestamp
import Triage.Identifier
import Triage.Program

/-!
This module contains the start of the program: it looks at the files and variables, runs the program on what it
finds, prints what comes of it and writes the store back. Services are not reached from here, so every exchange
with one of them fails.
-/

namespace Triage
namespace Start

def variableNames : List String :=
  ["LLM_PROVIDER", "DEEPSEEK_API_KEY", "DEEPSEEK_BASE_URL", "DEEPSEEK_MODEL", "OPENAI_API_KEY",
    "OPENAI_BASE_URL", "OPENAI_MODEL", "LLM_LOCAL_ENABLED", "LLM_LOCAL_BASE_URL", "LLM_LOCAL_MODEL",
    "LLM_LOCAL_API_KEY", "LLM_LOCAL_PURPOSES", "LLM_LOCAL_TIMEOUT_MS", "LLM_CLOUD_TIMEOUT_MS_FIELDS_ONLY",
    "DATABASE_PATH", "DATABASE_MAX_CONNECTIONS", "LOG_LEVEL", "LOG_FORMAT", "REQUEST_TIMEOUT_MS",
    "PROMPTS_DIR", "SCHEMAS_DIR", "HOME"]

def environment : IO Environment := do
  let mut found : Members String := []
  for name in variableNames do
    if let some value ← IO.getEnv name then
      found := found.insert name value
  return ⟨found⟩

/--
The files with the file at a path, if it is there.
-/
def look (files : Files) (path : String) : IO Files := do
  try
    let place ← IO.FS.realPath path
    if ← place.isDir then
      return files.write path .directory
    let bytes ← IO.FS.readBinFile place
    match String.fromUTF8? bytes with
    | some text => return files.write path (.text text)
    | none => return files.write path .binary
  catch _ =>
    return files

/--
The files with everything in the directory at a path, if it is there.
-/
def lookInto (files : Files) (path : String) : IO Files := do
  try
    let mut files ← look files path
    let place ← IO.FS.realPath path
    for entry in ← place.readDir do
      files ← look files (Files.join path entry.fileName)
    return files
  catch _ =>
    return files

def onTheWay (path : String) : List String :=
  let names := path.splitOn "/"
  ((List.range names.length).map fun n => "/".intercalate (names.take (n + 1))).filter (· ≠ "")

def leave (files : Files) (path : String) : IO Unit := do
  match files.read path with
  | .ok text =>
    match (onTheWay path).reverse with
    | _ :: parent :: _ => IO.FS.createDirAll parent
    | _ => pure ()
    IO.FS.writeFile path text
  | .error _ => pure ()

def now : IO Timestamp := do
  let t ← Std.Time.Timestamp.now
  return (Timestamp.ofEpoch? t.val.second.val.toNat t.val.nano.val.toNat).getD .epoch

/--
The exchange with a service that is not reached.
-/
def unreached (_ : Llm.Provider) (_ : Llm.Post) (services : Unit) : Llm.Exchange × Unit :=
  (⟨0, none⟩, services)

/--
Run the program with some arguments and return what it exits with.
-/
def run (arguments : List String) : IO UInt32 := do
  let env ← environment
  let files ← look Files.none Config.environmentFile
  let needs := Program.needs arguments (Program.environmentOf files env)
  let files ← (needs.files.flatMap onTheWay).foldlM look files
  let files ← needs.directories.foldlM lookInto files
  let bytes ← IO.getRandomBytes 16
  let time ← now
  let finish := Program.run {
    arguments := arguments
    environment := env
    files := files
    occasion := { id := Identifier.ofBytes bytes.toList, started := time, finished := time } } unreached ()
  match needs.files with
  | store :: _ => if finish.output.isSome then leave finish.files store
  | [] => pure ()
  if let some output := finish.output then IO.println output.toText
  if let some complaint := finish.complaint then IO.eprintln complaint
  return finish.exitCode

end Start
end Triage

def main (arguments : List String) : IO UInt32 :=
  Triage.Start.run arguments
