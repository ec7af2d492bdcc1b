import ContentServer.Assoc
import ContentServer.Table.Definition
import ContentServer.Text.Octets

namespace ContentServer

inductive TableFile where
  | file (modified : Int) (content : List UInt8)
  /-- `none` is a time that no file has. -/
  | directory (modified : Option Int := none)
  deriving DecidableEq, Repr

abbrev TableDirectory := Assoc String TableFile

/-- Names of definitions consist of ASCII letters and digits, hyphens and underscores. -/
def isTableName (name : String) : Bool :=
  name ≠ "" && name.toList.all fun c => c.isAlphanum || c = '-' || c = '_'

/-- The longest name that a file can have with its extension. -/
def maxTableName : Nat := 250

def TableFile.modified? : TableFile → Option Int
  | file modified _ => some modified
  | directory modified => modified

def TableFile.read (name : String) : TableFile → Except TableError TableDefinition
  | directory _ => .error (.unreadable name "Is a directory (os error 21)")
  | file _ content =>
    match Text.Utf8.decode? content with
    | none => .error (.unreadable name "stream did not contain valid UTF-8")
    | some text => (TableDefinition.parse text).mapError (.malformed name)

def TableDirectory.find (directory : TableDirectory) (name : String) :
    Except TableError TableFile :=
  if maxTableName < name.length then .error (.unreadable name "File name too long (os error 36)")
  else
    match directory.get? name with
    | some file => .ok file
    | none => .error (.definitionMissing name)

def TableDirectory.render (directory : TableDirectory) (name : String) :
    Except TableError TableOutput :=
  if isTableName name then do
    let file ← directory.find name
    let definition ← file.read name
    return definition.output
  else .error (.definitionMissing name)

abbrev TableCache := Assoc String (Option Int × TableDefinition)

namespace TableCache

def fresh? (cache : TableCache) (name : String) (file : TableFile) : Option TableDefinition :=
  match cache.get? name with
  | some (modified, definition) => if modified = file.modified? then some definition else none
  | none => none

/-- A definition by name. A name without a file loses its entry; a file that cannot be read changes
nothing. -/
def load (directory : TableDirectory) (name : String) (cache : TableCache) :
    Except TableError TableDefinition × TableCache :=
  if isTableName name then
    match directory.find name with
    | .error e => (.error e, cache.erase name)
    | .ok file =>
      match cache.fresh? name file with
      | some definition => (.ok definition, cache)
      | none =>
        match file.read name with
        | .error e => (.error e, cache)
        | .ok definition => (.ok definition, cache.insert name (file.modified?, definition))
  else (.error (.definitionMissing name), cache)

def render (directory : TableDirectory) (name : String) (cache : TableCache) :
    Except TableError TableOutput × TableCache :=
  match cache.load directory name with
  | (.ok definition, cache) => (.ok definition.output, cache)
  | (.error e, cache) => (.error e, cache)

end TableCache

end ContentServer
