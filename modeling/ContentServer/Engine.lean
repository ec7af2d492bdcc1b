import ContentServer.Interpreter
import ContentServer.Page.Basic
import ContentServer.Record
import ContentServer.Redirect
import ContentServer.Resolver

namespace ContentServer

structure PageRequest where
  path : String
  query : Option String := none
  /-- What relative redirects are resolved against. -/
  origin : String := "http://localhost"
  unpublished : Bool := false
  deriving DecidableEq, Repr

inductive Outcome where
  | page (page : Page)
  | redirect (emission : RedirectEmission)
  | status (disposition : Disposition)
  deriving DecidableEq, Repr

structure Engine where
  interpreter : Interpreter
  settings : Settings

namespace Engine

variable (engine : Engine)

def redirectOutcome (request : PageRequest) (path : RequestPath) : Lookup Outcome := do
  let decision ← RedirectDecision.resolve path engine.settings.extension .notFound
    engine.settings.maxRedirectProbes.toNat
  match decision.target? with
  | some target =>
    if decision.disposition.isRedirect then
      return .redirect (.to engine.interpreter.idna decision.disposition target request.origin)
    else return .status decision.disposition
  | none => return .status decision.disposition

/-- The outcome of a request that a record answers; `none` if its content lacks a table. -/
def recordOutcome (request : PageRequest) (path : RequestPath) (resolved : Resolved) :
    Lookup (Except HierarchyCycle (Option Outcome)) := do
  let record := resolved.record
  match path.enforce record.canonical engine.settings.extension request.query with
  | some target =>
    return .ok (some (.redirect (.to engine.interpreter.idna .permanent target request.origin)))
  | none =>
    match engine.interpreter.interpret record.content resolved.parameters record.id with
    | .error _ => return .ok none
    | .ok (.redirect target) =>
      return .ok (some (.redirect (.to engine.interpreter.idna .temporary target request.origin)))
    | .ok (.page assembly) =>
      let entries ← Lookup.query (.ancestors record.id)
      return (Hierarchy.trail entries record.id).map fun trail =>
        some (.page (.assemble record resolved.parameters assembly trail path engine.settings))

def handle (request : PageRequest) : Lookup (Except HierarchyCycle Outcome) := do
  let path := RequestPath.parse engine.settings.extension request.path
  match ← Resolver.resolve path request.unpublished with
  | none => return .ok (← engine.redirectOutcome request path)
  | some resolved =>
    match ← engine.recordOutcome request path resolved with
    | .error cycle => return .error cycle
    | .ok (some outcome) => return .ok outcome
    | .ok none => return .ok (← engine.redirectOutcome request path)

end Engine

end ContentServer
