import ContentServer.Http.Message
import ContentServer.Text.Basic
import ContentServer.Text.Octets

namespace ContentServer.Http

namespace Preview

def headerName : String := "x-preview-token"

def parameterName : String := "preview"

def presented? (headers : Headers) (query : Option String) : Option String :=
  (headers.text? headerName).or
    (query.bind fun query => (Text.Percent.formPairs query).lookup parameterName)

def isGranted (headers : Headers) (query token : Option String) : Bool :=
  match token with
  | none => false
  | some token => presented? headers query == some token

end Preview

inductive Allowance where
  | any
  | only (values : List String)
  deriving DecidableEq, Repr

namespace Allowance

/-- Reads a star, or a list with commas, from which `read?` leaves out what makes no sense. -/
def parse (read? : String → Option String) (text : String) : Allowance :=
  if text = "*" then any
  else only ((text.toList.splitOn ',').filterMap fun c => read? (String.ofList (Text.trim c)))

def header (name : String) : Allowance → Headers
  | any => [(name, "*")]
  | only values => if values.isEmpty then [] else [(name, ",".intercalate values)]

end Allowance

structure Cors where
  origins : Allowance
  methods : Allowance
  headers : Allowance
  deriving DecidableEq, Repr

namespace Cors

def readOrigin? (text : String) : Option String :=
  if isHeaderValue text then some text else none

def readMethod? (text : String) : Option String :=
  if isToken text then some text else none

def readHeaderName? (text : String) : Option String :=
  if isToken text then some (String.ofList (text.toList.map Char.toLower)) else none

def ofTexts (origins methods headers : String) : Cors where
  origins := .parse readOrigin? origins
  methods := .parse readMethod? methods
  headers := .parse readHeaderName? headers

/-- Grants the origin of a request; a listed one is named, and others get no grant. -/
def originHeader (cors : Cors) (request : Request) : Headers :=
  match cors.origins with
  | .any => [("access-control-allow-origin", "*")]
  | .only origins =>
    ((request.headers.lookup "origin").filter (· ∈ origins)).toList.map fun origin =>
      ("access-control-allow-origin", origin)

def responseHeaders (cors : Cors) (request : Request) : Headers :=
  cors.originHeader request ++
    [("vary", "origin, access-control-request-method, access-control-request-headers")]

def preflight (cors : Cors) (request : Request) : Response where
  status := 200
  headers :=
    cors.responseHeaders request ++ cors.methods.header "access-control-allow-methods" ++
      cors.headers.header "access-control-allow-headers"

end Cors

end ContentServer.Http
