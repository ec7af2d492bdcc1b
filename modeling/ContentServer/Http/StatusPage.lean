import ContentServer.Http.Message
import ContentServer.Record
import ContentServer.Redirect
import ContentServer.Store.Lookup

namespace ContentServer.Http

def htmlType : String := "text/html; charset=utf-8"

def jsonType : String := "application/json"

structure StatusText where
  title : String
  heading : String
  sentence : String

def StatusText.of : UInt16 → StatusText
  | 403 => ⟨"403 Forbidden", "Forbidden", "You do not have access to this page."⟩
  | 404 => ⟨"404 Not Found", "Not Found", "The requested page does not exist."⟩
  | 405 => ⟨"405 Method Not Allowed", "Method Not Allowed", "Only GET requests are served."⟩
  | 410 => ⟨"410 Gone", "Gone", "This page has been removed."⟩
  | 503 => ⟨"503 Service Unavailable", "Service Unavailable", "Please try again later."⟩
  | _ => ⟨"500 Internal Server Error", "Internal Server Error", "The page could not be rendered."⟩

def StatusText.html (text : StatusText) : String :=
  "<!DOCTYPE html>\n<html><head><meta charset=\"utf-8\"><title>" ++ text.title ++
    "</title></head>\n<body><h1>" ++ text.heading ++ "</h1><p>" ++ text.sentence ++
    "</p></body></html>\n"

namespace Response

def statusPage (status : UInt16) : Response where
  status
  headers := [("content-type", htmlType)]
  body := (StatusText.of status).html

/-- Sends the client elsewhere; a location that no header can carry is answered with the error
page. -/
def redirect (emission : RedirectEmission) : Response :=
  if isHeaderValue emission.location then
    { status := if 100 ≤ emission.status && emission.status ≤ 999 then emission.status else 302
      headers := [("location", emission.location)] }
  else statusPage 500

end Response

inductive Failure where
  | storeUnavailable (error : StoreError)
  | misconfigured (cycle : HierarchyCycle)
  | methodNotAllowed (method : String)
  deriving DecidableEq, Repr

namespace Failure

def status : Failure → UInt16
  | storeUnavailable _ => 503
  | misconfigured _ => 500
  | methodNotAllowed _ => 405

def message : Failure → String
  | storeUnavailable error => "record store unavailable: " ++ error.message
  | misconfigured cycle => "configuration error: " ++ cycle.message
  | methodNotAllowed method => s!"method {method} not allowed"

def response (failure : Failure) : Response :=
  .statusPage failure.status

end Failure

end ContentServer.Http
