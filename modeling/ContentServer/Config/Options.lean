import ContentServer.Config.Basic
import ContentServer.Text.Basic

namespace ContentServer

inductive OptionError where
  | helpWanted
  | unknownArgument (argument : String)
  | missingValue (option : String)
  | needlessValue (option : String)
  | repeated (option : String)
  | badNumber (option value : String)
  | badSwitch (option value : String)
  deriving DecidableEq, Repr

def OptionError.message : OptionError → String
  | helpWanted => "help requested"
  | unknownArgument argument => s!"unexpected argument '{argument}' found"
  | missingValue option => s!"a value is required for '--{option}' but none was supplied"
  | needlessValue option => s!"unexpected value for '--{option}' found; no more were expected"
  | repeated option => s!"the argument '--{option}' cannot be used multiple times"
  | badNumber option value => s!"invalid value '{value}' for '--{option}'"
  | badSwitch option value => s!"invalid value '{value}' for '--{option}'"

inductive OptionKind where
  | text (set : Config → String → Config)
  | path (set : Config → String → Config)
  | port (set : Config → UInt16 → Config)
  | count (set : Config → UInt64 → Config)
  | switch (set : Config → Bool → Config)

structure ServerOption where
  name : String
  kind : OptionKind

namespace ServerOption

def all : List ServerOption :=
  [⟨"port", .port fun c v => { c with port := v }⟩,
    ⟨"host", .text fun c v => { c with host := v }⟩,
    ⟨"log-level", .text fun c v => { c with logLevel := v }⟩,
    ⟨"request-timeout", .count fun c v => { c with requestTimeout := v }⟩,
    ⟨"enable-cors", .switch fun c v => { c with enableCors := v }⟩,
    ⟨"cors-origins", .text fun c v => { c with corsOrigins := v }⟩,
    ⟨"cors-methods", .text fun c v => { c with corsMethods := v }⟩,
    ⟨"cors-headers", .text fun c v => { c with corsHeaders := v }⟩,
    ⟨"base-url", .text fun c v => { c with baseUrl := v }⟩,
    ⟨"database-url", .text fun c v => { c with databaseUrl := some v }⟩,
    ⟨"project-name", .text fun c v => { c with projectName := v }⟩,
    ⟨"extension", .text fun c v => { c with extension := v }⟩,
    ⟨"default-slot", .text fun c v => { c with defaultSlot := v }⟩,
    ⟨"preview-token", .text fun c v => { c with previewToken := some v }⟩,
    ⟨"table-dir", .path fun c v => { c with tableDirectory := some v }⟩,
    ⟨"max-redirect-probes", .count fun c v => { c with maxRedirectProbes := v }⟩,
    ⟨"enable-request-id", .switch fun c v => { c with enableRequestId := v }⟩,
    ⟨"seed-file", .path fun c v => { c with seedFile := some v }⟩]

def find? (name : List Char) : Option ServerOption :=
  all.find? (·.name == String.ofList name)

def ofLetter? (letter : Char) : Option ServerOption :=
  if letter = 'p' then find? "port".toList else none

def variableName (option : ServerOption) : String :=
  "LECTERN_" ++ String.ofList (option.name.toList.map fun c => if c = '-' then '_' else c.toUpper)

def isSwitch (option : ServerOption) : Bool :=
  match option.kind with
  | .switch _ => true
  | _ => false

def digits? (digits : List Char) : Option Nat :=
  if !digits.isEmpty && digits.all Char.isDigit then
    some (digits.foldl (fun n c => n * 10 + (c.toNat - '0'.toNat)) 0)
  else none

def count? : List Char → Option Nat
  | '+' :: digits => digits? digits
  | digits => digits? digits

/-- As `count?`, but zero may be negative. -/
def port? : List Char → Option Nat
  | '-' :: digits => (digits? digits).filter (· = 0)
  | text => count? text

def apply (option : ServerOption) (config : Config) (value : String) : Except OptionError Config :=
  match option.kind with
  | .text set => .ok (set config value)
  | .path set => if value = "" then .error (.missingValue option.name) else .ok (set config value)
  | .port set =>
    match (port? value.toList).filter (· < UInt16.size) with
    | some n => .ok (set config n.toUInt16)
    | none => .error (.badNumber option.name value)
  | .count set =>
    match (count? value.toList).filter (· < UInt64.size) with
    | some n => .ok (set config n.toUInt64)
    | none => .error (.badNumber option.name value)
  | .switch set =>
    if value = "true" then .ok (set config true)
    else if value = "false" then .ok (set config false)
    else .error (.badSwitch option.name value)

end ServerOption

/-- A command line of which some arguments have been read. The option read last stays open until
another one or the end comes; then its value is looked at. -/
structure CommandLine where
  config : Config := {}
  given : List String := []
  opened : Option (ServerOption × Option String) := none

namespace CommandLine

def assign (line : CommandLine) (option : ServerOption) (value : String) :
    Except OptionError CommandLine :=
  if option.name ∈ line.given then .error (.repeated option.name)
  else do
    let config ← option.apply line.config value
    return { line with config, given := option.name :: line.given }

def settle (line : CommandLine) : Except OptionError CommandLine :=
  match line.opened with
  | none => .ok line
  | some (option, none) => .error (.missingValue option.name)
  | some (option, some value) => { line with opened := none }.assign option value

def start (line : CommandLine) (option : ServerOption) (value : Option (List Char)) :
    Except OptionError CommandLine := do
  let line ← line.settle
  match value with
  | some value => line.assign option (String.ofList value)
  | none => return { line with opened := some (option, none) }

def startSwitch (line : CommandLine) (option : ServerOption) : Except OptionError CommandLine := do
  let line ← line.settle
  line.assign option "true"

def long (line : CommandLine) (argument : String) (text : List Char) :
    Except OptionError CommandLine :=
  let name := text.takeWhile (· != '=')
  let value := (Text.cutFirst? '=' text).map (·.2)
  if name = "help".toList then
    match value with
    | none => line.settle >>= fun _ => .error .helpWanted
    | some _ => .error (.needlessValue "help")
  else
    match ServerOption.find? name with
    | none => .error (.unknownArgument argument)
    | some option =>
      if option.isSwitch then
        match value with
        | none => line.startSwitch option
        | some _ => .error (.needlessValue option.name)
      else line.start option value

def short (line : CommandLine) (argument : String) (letter : Char) (rest : List Char) :
    Except OptionError CommandLine :=
  if letter = 'h' then line.settle >>= fun _ => .error .helpWanted
  else
    match ServerOption.ofLetter? letter with
    | none => .error (.unknownArgument argument)
    | some option =>
      match rest with
      | [] => line.start option none
      | '=' :: value => line.start option (some value)
      | value => line.start option (some value)

def plain (line : CommandLine) (argument : String) : Except OptionError CommandLine :=
  match line.opened with
  | some (option, none) => .ok { line with opened := some (option, some argument) }
  | _ => .error (.unknownArgument argument)

/-- Reads arguments. Two hyphens alone end the options, and nothing may follow them. -/
def read (line : CommandLine) : List String → Except OptionError CommandLine
  | [] => line.settle
  | argument :: arguments =>
    match argument.toList with
    | ['-', '-'] =>
      match arguments with
      | [] => line.settle
      | next :: _ => .error (.unknownArgument next)
    | '-' :: '-' :: text => line.long argument text >>= fun line => line.read arguments
    | '-' :: letter :: rest => line.short argument letter rest >>= fun line => line.read arguments
    | _ => line.plain argument >>= fun line => line.read arguments

def consult (environment : List (String × String)) (line : CommandLine) (option : ServerOption) :
    Except OptionError CommandLine :=
  match environment.lookup option.variableName with
  | some value => if option.name ∈ line.given then .ok line else line.assign option value
  | none => .ok line

end CommandLine

namespace Config

def ofCommandLine (arguments : List String) (environment : List (String × String)) :
    Except OptionError Config := do
  let line ← ({} : CommandLine).read arguments
  let line ← ServerOption.all.foldlM (CommandLine.consult environment) line
  return line.config

/-- The configuration that the environment makes up; if any part of it is unfit, the default one. -/
def ofEnvironment (environment : List (String × String)) : Config :=
  match ofCommandLine [] environment with
  | .ok config => config
  | .error _ => {}

end Config

end ContentServer
