import ContentServer.Path
import ContentServer.Store.Lookup

namespace ContentServer

structure Resolved where
  record : Record
  parameters : List String
  deriving DecidableEq, Repr

def wildcardKey (kept : List String) : String :=
  if kept.isEmpty then "/*" else "/" ++ joinSegments kept ++ "/*"

namespace Resolver

/-- Looks up the wildcard keys of a path. The list holds the segments that are still kept, the last
one first; dropping one moves it to the front of the parameters. -/
def probe (unpublished : Bool) : List String → List String → Lookup (Option Resolved)
  | [], _ => return none
  | segment :: kept, parameters => do
    match ← Lookup.query (.record (wildcardKey kept.reverse) unpublished) with
    | some record => return some ⟨record, segment :: parameters⟩
    | none => probe unpublished kept (segment :: parameters)

/-- The record for a path, with what its key captured. The site root is only looked up exactly. -/
def resolve (path : RequestPath) (unpublished : Bool) : Lookup (Option Resolved) := do
  match ← Lookup.query (.record path.key unpublished) with
  | some record => return some ⟨record, []⟩
  | none => probe unpublished path.segments.reverse []

end Resolver

inductive RedirectDecision where
  | rule (rule : RedirectRule) (parameters : List String)
  | notFound (fallback : Disposition)
  deriving DecidableEq, Repr

namespace RedirectDecision

def disposition : RedirectDecision → Disposition
  | rule r _ => r.disposition
  | notFound fallback => fallback

def target? : RedirectDecision → Option String
  | rule r parameters => some (r.targetFor parameters)
  | notFound _ => none

end RedirectDecision

def RequestPath.redirectSources (path : RequestPath) (extension : String) : List String :=
  if path.isRoot then [path.key]
  else
    [path.key ++ "/", path.key ++ "." ++ extension, path.key] ++
      path.language.toList.map fun language => path.key ++ "." ++ extension ++ "." ++ language

namespace RedirectDecision

/-- Looks up at most `probes` wildcard sources of the kept segments, the last one first. -/
def probe (fallback : Disposition) : Nat → List String → List String → Lookup RedirectDecision
  | probes + 1, segment :: kept, parameters => do
    match ← Lookup.query (.wildcardRedirect (wildcardKey kept.reverse)) with
    | some found => return rule found (segment :: parameters)
    | none => probe fallback probes kept (segment :: parameters)
  | _, _, _ => return notFound fallback

def resolve (path : RequestPath) (extension : String) (fallback : Disposition) (maxProbes : Nat) :
    Lookup RedirectDecision := do
  match ← Lookup.query (.redirect (path.redirectSources extension)) with
  | some found => return rule found []
  | none => probe fallback maxProbes path.segments.reverse []

end RedirectDecision

end ContentServer
