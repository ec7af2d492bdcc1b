import ContentServer.Document.Page
import ContentServer.Engine
import ContentServer.Http.Access
import ContentServer.Http.Document
import ContentServer.Http.MediaType
import ContentServer.Http.StatusPage
import ContentServer.Store.Basic

namespace ContentServer.Http

structure Site where
  engine : Engine
  origin : String := "http://localhost:8080"
  previewToken : Option String := none
  cors : Option Cors := none
  requestIds : Bool := false

/-- What differs from one request to the next: the time, and an id for requests that come without
one. -/
structure Occasion where
  now : Instant
  freshId : String

inductive Probe where
  | health
  | liveness
  | readiness
  deriving DecidableEq, Repr

def Probe.ofPath? : String → Option Probe
  | "/_health" => some health
  | "/_liveness" => some liveness
  | "/_readiness" => some readiness
  | _ => none

def isReading (method : String) : Bool :=
  method = "GET" || method = "HEAD"

namespace Response

def json (status : UInt16) (body : Json) : Response where
  status
  headers := [("content-type", jsonType)]
  body := body.print

def pageHeaders (page : Page) (contentType : String) : Headers :=
  [("content-type", contentType), ("last-modified", page.lastModified.httpDate)] ++
    page.language.toList.map fun language => ("content-language", language)

def page (page : Page) (settings : Settings) : Representation → Response
  | .html => { status := 200, headers := pageHeaders page htmlType, body := page.document settings }
  | .json => { status := 200, headers := pageHeaders page jsonType, body := page.toJson.print }

def outcome (settings : Settings) (representation : Representation) : Outcome → Response
  | .page p => page p settings representation
  | .redirect emission => redirect emission
  | .status disposition => statusPage disposition.code

def health (backend : String) (now : Instant) : Response :=
  json 200 (.object
    [("backend", .text backend), ("status", .text "healthy"), ("timestamp", .text now.offsetText)])

def readiness (backend : String) : Except StoreError Unit → Response
  | .ok () => json 200 (report "ok" "ready")
  | .error e => json 503 (report e.message "unavailable")
where
  report (storage status : String) : Json :=
    .object
      [("backend", .text backend), ("checks", .object [("storage", .text storage)]),
        ("status", .text status)]

def notAllowed : Response where
  status := 405

end Response

namespace Site

variable {σ : Type} [RecordStore σ] (site : Site)

def pageRequest (request : Request) : PageRequest where
  path := request.target.path
  query := request.target.query
  origin := site.origin
  unpublished := Preview.isGranted request.headers request.target.query site.previewToken

def servePage (request : Request) (store : σ) : Except Failure Response × σ :=
  if isReading request.method then
    match (site.engine.handle (site.pageRequest request)).run RecordStore.answer store with
    | (.error e, store) => (.error (.storeUnavailable e), store)
    | (.ok (.error cycle), store) => (.error (.misconfigured cycle), store)
    | (.ok (.ok outcome), store) =>
      (.ok (.outcome site.engine.settings (.preferred request.headers) outcome), store)
  else (.error (.methodNotAllowed request.method), store)

/-- Answers a probe; whether the store is ready shows in a lookup of the site root. -/
def serveProbe (now : Instant) (probe : Probe) (store : σ) : Response × σ :=
  let backend := RecordStore.backend store
  match probe with
  | .health => (.health backend now, store)
  | .liveness => ({ status := 200 }, store)
  | .readiness =>
    match RecordStore.answer (.record "/" false) store with
    | (.ok _, store) => (.readiness backend (.ok ()), store)
    | (.error e, store) => (.readiness backend (.error e), store)

def route (now : Instant) (request : Request) (store : σ) : Response × σ :=
  match Probe.ofPath? request.target.path with
  | some probe =>
    if isReading request.method then serveProbe now probe store else (.notAllowed, store)
  | none =>
    match site.servePage request store with
    | (.ok response, store) => (response, store)
    | (.error failure, store) => (failure.response, store)

def routeCors (now : Instant) (request : Request) (store : σ) : Response × σ :=
  match site.cors with
  | none => site.route now request store
  | some cors =>
    if request.method = "OPTIONS" then (cors.preflight request, store)
    else
      let (response, store) := site.route now request store
      (response.addHeaders (cors.responseHeaders request), store)

def allowHeader (request : Request) : Headers :=
  if (Probe.ofPath? request.target.path).isSome && !isReading request.method then
    [("allow", "GET,HEAD")]
  else []

def idHeader (freshId : String) (request : Request) : Headers :=
  if site.requestIds then
    [("x-request-id", (request.headers.lookup "x-request-id").getD freshId)]
  else []

/-- Answers a request. The body is left out where only the head is wanted. -/
def respond (occasion : Occasion) (request : Request) (store : σ) : Response × σ :=
  let (response, store) := site.routeCors occasion.now request store
  let whole := (response.addHeaders (allowHeader request)).withLength.addHeaders
    (site.idHeader occasion.freshId request)
  (if request.method = "HEAD" then whole.withoutBody else whole, store)

end Site

end ContentServer.Http
