import ContentServer.Config.Basic
import ContentServer.Config.Options
import ContentServer.Document.Seed
import ContentServer.Http.Message
import ContentServer.Json.Fault
import Std.Time

namespace ContentServer.Program

def environment : IO (List (String × String)) :=
  ServerOption.all.filterMapM fun option => do
    return (← IO.getEnv option.variableName).map (option.variableName, ·)

def now : IO Instant := do
  let seconds := (← Std.Time.Timestamp.now).toSecondsSinceUnixEpoch.val
  match Instant.ofEpochSeconds? seconds with
  | some t => return t
  | none => throw (IO.userError "the clock shows no date of the calendar")

def freshId : IO String := do
  return Http.RequestId.ofOctets (← IO.getRandomBytes 16).toList

def tableDirectory (directory : String) : IO TableDirectory := do
  let entries ← (← IO.FS.realPath directory).readDir
  entries.foldlM (fun tables entry => do
    match List.isSuffixOf? ".json".toList entry.fileName.toList with
    | none => return tables
    | some name =>
      let metadata ← entry.path.metadata
      let file : TableFile ←
        match metadata.type with
        | .dir => pure (.directory metadata.modified.sec)
        | _ => do
          pure (.file metadata.modified.sec (← IO.FS.readBinFile entry.path).toList)
      return tables.insert (String.ofList name) file) ∅

def importSeed (path : String) (store : Store) : IO Store := do
  let text ← IO.FS.readFile path
  match Seed.parse (← now) text with
  | .error fault => throw (IO.userError s!"invalid seed file {path}: {fault.message text.toList}")
  | .ok seed =>
    match seed.apply store with
    | (.ok _, store) => return store
    | (.error e, _) => throw (IO.userError e.message)

/-- The lines up to an empty one or the end of the input. -/
partial def requestLines (input : IO.FS.Stream) : IO (List String) := do
  let line ← input.getLine
  if (Text.trim line.toList).isEmpty then return []
  else return line :: (← requestLines input)

partial def serve (config : Config) (input output : IO.FS.Stream) (store : Store) : IO Unit := do
  match Http.Request.ofLines? (← requestLines input) with
  | none => return
  | some request =>
    let now ← now
    let site := config.site now (← config.tableDirectory.mapM tableDirectory)
    let (response, store) := site.respond ⟨now, ← freshId⟩ request store
    output.putStr response.write
    output.flush
    serve config input output store

def start (config : Config) : IO Unit := do
  let store := Store.relational .fresh
  let store ←
    match config.seedFile with
    | some path => importSeed path store
    | none => pure store
  serve config (← IO.getStdin) (← IO.getStdout) store

def run (arguments : List String) : IO UInt32 := do
  match Config.ofCommandLine arguments (← environment) with
  | .error e =>
    IO.eprintln s!"error: {e.message}"
    return if e = .helpWanted then 0 else 2
  | .ok config =>
    match config.problems .asWritten with
    | [] =>
      start config
      return 0
    | problems =>
      for problem in problems do
        IO.eprintln s!"Configuration error: {problem.message}"
      return 1

end ContentServer.Program

def main (arguments : List String) : IO UInt32 :=
  ContentServer.Program.run arguments
