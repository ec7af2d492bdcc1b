import ContentServer.Document.Record
import ContentServer.Json.Struct
import ContentServer.Json.Value
import ContentServer.Redirect

namespace ContentServer

def Json.Reader.disposition : Json.Reader Disposition := do
  let code ← uint16
  match Disposition.ofCode? code.toNat with
  | some d => return d
  | none => fail (.invalidValue (Disposition.unsupportedMessage code.toNat))

namespace RedirectRule

open Json

structure Partial where
  source : Option String := none
  target : Option String := none
  disposition : Option Disposition := none

def fields : List (Member Partial) :=
  [.required "source" (·.source) (fun r a => { r with source := some a }) .string,
    .required "target" (·.target) (fun r a => { r with target := some a }) .string,
    .defaulted "code" (·.disposition) (fun r a => { r with disposition := some a }) .disposition]

/-- Completes a rule, which is permanent unless it says otherwise. -/
def Partial.finish (r : Partial) : Except String RedirectRule :=
  match r.source, r.target with
  | none, _ => .error "source"
  | _, none => .error "target"
  | some source, some target => .ok ⟨source, target, r.disposition.getD .permanent⟩

def reader : Reader RedirectRule :=
  .struct "RedirectRule" fields {} (·.finish)

def toJson (r : RedirectRule) : Json :=
  .object
    [("source", .text r.source),
      ("target", .text r.target),
      ("code", .int r.disposition.code.toNat)]

end RedirectRule

structure Seed where
  records : List Record := []
  redirects : List RedirectRule := []
  deriving DecidableEq, Repr

namespace Seed

open Json

structure Partial where
  records : Option (List Record) := none
  redirects : Option (List RedirectRule) := none

def fields (now : Instant) : List (Member Partial) :=
  [.defaulted "records" (·.records) (fun s a => { s with records := some a })
      (.list (Record.reader now)),
    .defaulted "redirects" (·.redirects) (fun s a => { s with redirects := some a })
      (.list RedirectRule.reader)]

def reader (now : Instant) : Reader Seed :=
  .struct "Seed" (fields now) {} fun s => .ok ⟨s.records.getD [], s.redirects.getD []⟩

/-- Reads a document; a record that does not tell when it was modified was modified `now`. -/
def parse (now : Instant) (text : String) : Except Fault Seed :=
  (reader now).read text

def toJson (seed : Seed) : Json :=
  .object
    [("records", .list (seed.records.map Record.toJson)),
      ("redirects", .list (seed.redirects.map RedirectRule.toJson))]

def print (seed : Seed) : String :=
  seed.toJson.print

end Seed

end ContentServer
