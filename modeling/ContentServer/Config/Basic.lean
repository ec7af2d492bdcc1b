import ContentServer.Http.Site
import ContentServer.Page.Basic
import ContentServer.Redirect
import ContentServer.Table.Directory
import ContentServer.Text.Basic

namespace ContentServer

structure Config where
  port : UInt16 := 8080
  host : String := "127.0.0.1"
  logLevel : String := "info"
  /-- How long a request may take, in seconds. -/
  requestTimeout : UInt64 := 30
  enableCors : Bool := true
  /-- Origins with commas between them, or a star; methods and headers likewise. -/
  corsOrigins : String := "*"
  corsMethods : String := "GET,HEAD,OPTIONS"
  corsHeaders : String := "Accept,Content-Type,X-Preview-Token"
  baseUrl : String := "http://localhost:8080"
  databaseUrl : Option String := none
  projectName : String := "Lectern"
  extension : String := "html"
  defaultSlot : String := "text"
  previewToken : Option String := none
  tableDirectory : Option String := none
  maxRedirectProbes : UInt64 := 64
  enableRequestId : Bool := true
  seedFile : Option String := none
  deriving DecidableEq, Repr

inductive ConfigProblem where
  | portZero
  | timeoutZero
  | baseUrl (url : String)
  | extension (extension : String)
  | defaultSlotBlank
  | previewTokenEmpty
  | redirectProbesZero
  deriving DecidableEq, Repr

def ConfigProblem.message : ConfigProblem → String
  | .portZero => "Port cannot be 0"
  | .timeoutZero => "Request timeout cannot be 0"
  | .baseUrl url => "Base URL must be an absolute http(s) URL: " ++ url
  | .extension text => "Extension must be non-empty without '.' or '/': " ++ text
  | .defaultSlotBlank => "Default slot cannot be empty"
  | .previewTokenEmpty => "Preview token cannot be empty when set"
  | .redirectProbesZero => "Max redirect probes cannot be 0"

namespace Config

def testing : Config where
  port := 0
  logLevel := "debug"
  requestTimeout := 5
  enableCors := false
  databaseUrl := some ":memory:"
  enableRequestId := false

def socketAddress (config : Config) : String :=
  s!"{config.host}:{config.port}"

def origin (config : Config) : String :=
  trimOrigin config.baseUrl

def settings (config : Config) : Settings where
  extension := config.extension
  defaultSlot := config.defaultSlot
  projectName := config.projectName
  maxRedirectProbes := config.maxRedirectProbes

def isExtension (text : String) : Bool :=
  text ≠ "" && text.toList.all fun c => c != '.' && c != '/'

def problems (idna : Url.Idna) (config : Config) : List ConfigProblem :=
  (if config.port = 0 then [.portZero] else []) ++
    (if config.requestTimeout = 0 then [.timeoutZero] else []) ++
    (if Url.isWeb idna config.baseUrl then [] else [.baseUrl config.baseUrl]) ++
    (if isExtension config.extension then [] else [.extension config.extension]) ++
    (if (Text.trim config.defaultSlot.toList).isEmpty then [.defaultSlotBlank] else []) ++
    (if config.previewToken = some "" then [.previewTokenEmpty] else []) ++
    (if config.maxRedirectProbes = 0 then [.redirectProbesZero] else [])

def cors (config : Config) : Option Http.Cors :=
  if config.enableCors then some (.ofTexts config.corsOrigins config.corsMethods config.corsHeaders)
  else none

def interpreter (now : Instant) (tables : Option TableDirectory) : Interpreter where
  registry := .builtins now
  tables := tables.map fun directory definition _ => directory.render definition

def site (config : Config) (now : Instant) (tables : Option TableDirectory) : Http.Site where
  engine := ⟨interpreter now tables, config.settings⟩
  origin := config.origin
  previewToken := config.previewToken
  cors := config.cors
  requestIds := config.enableRequestId

end Config

end ContentServer
