import ContentServer.Json.Struct
import ContentServer.Json.Value
import ContentServer.Record
import ContentServer.Time.Relaxed
import ContentServer.Time.Text

namespace ContentServer

namespace Json.Reader

def instant : Reader Instant := do
  match Time.Relaxed.instant? (← string).toList with
  | some t => return t
  | none => fail (.invalidValue "not a timestamp")

def policyOf (name : String) : Reader CanonicalPolicy :=
  match CanonicalPolicy.ofDocumentName? name with
  | some policy => return policy
  | none => fail (.invalidValue s!"unknown variant `{name}`")

/-- A policy by its name, which may also be the one key of an object, with null for its value. -/
def policy : Reader CanonicalPolicy := do
  match ← peekNonblank with
  | none => failNext .eofInValue
  | some '"' => policyOf (← string)
  | some '\x7b' =>
    advance
    let policy ← policyOf (← string)
    colon
    match ← peekNonblank with
    | some 'n' => advance; word ['u', 'l', 'l']
    | _ => refuse "unit"
    match ← peekNonblank with
    | some '\x7d' => advance; return policy
    | some _ => fail .expectedValue
    | none => fail .eofInObject
  | some _ => failNext .expectedValue

end Json.Reader

namespace Record

open Json

structure Partial where
  id : Option RecordId := none
  key : Option String := none
  parent : Option (Option RecordId) := none
  title : Option String := none
  content : Option String := none
  canonical : Option CanonicalPolicy := none
  published : Option Bool := none
  author : Option (Option String) := none
  lastModified : Option Instant := none

def fields : List (Member Partial) :=
  [.required "id" (·.id) (fun r a => { r with id := some a }) .int64,
    .required "key" (·.key) (fun r a => { r with key := some a }) .string,
    .defaulted "parent_id" (·.parent) (fun r a => { r with parent := some a }) (.nullable .int64),
    .required "title" (·.title) (fun r a => { r with title := some a }) .string,
    .required "content" (·.content) (fun r a => { r with content := some a }) .string,
    .defaulted "canonical" (·.canonical) (fun r a => { r with canonical := some a }) .policy,
    .defaulted "published" (·.published) (fun r a => { r with published := some a }) .bool,
    .defaulted "author" (·.author) (fun r a => { r with author := some a }) (.nullable .string),
    .defaulted "last_modified" (·.lastModified) (fun r a => { r with lastModified := some a }) .instant]

/-- Completes a record; it counts as published, and as modified `now`, unless it says otherwise. -/
def Partial.finish (now : Instant) (r : Partial) : Except String Record :=
  match r.id, r.key, r.title, r.content with
  | none, _, _, _ => .error "id"
  | _, none, _, _ => .error "key"
  | _, _, none, _ => .error "title"
  | _, _, _, none => .error "content"
  | some id, some key, some title, some content =>
    .ok
      { id, key, title, content
        parent := r.parent.getD none
        canonical := r.canonical.getD .requireSlash
        published := r.published.getD true
        author := r.author.getD none
        lastModified := r.lastModified.getD now }

def reader (now : Instant) : Reader Record :=
  .struct "Record" fields {} (·.finish now)

def toJson (r : Record) : Json :=
  .object
    [("id", .int r.id.toInt),
      ("key", .text r.key),
      ("parent_id", .ofOption (fun id => .int id.toInt) r.parent),
      ("title", .text r.title),
      ("content", .text r.content),
      ("canonical", .text r.canonical.documentName),
      ("published", .bool r.published),
      ("author", .ofOption .text r.author),
      ("last_modified", .text r.lastModified.zuluText)]

end Record

end ContentServer
