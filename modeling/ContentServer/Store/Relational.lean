import ContentServer.Assoc
import ContentServer.Record
import ContentServer.Store.Lookup
import ContentServer.Time.Strict
import ContentServer.Time.Text

namespace ContentServer

structure PageRow where
  id : RecordId
  parent : Option RecordId
  title : String
  content : String
  canonical : String
  published : Int64
  author : Option String
  lastModified : String
  deriving DecidableEq, Repr

structure RedirectRow where
  target : String
  code : Int64
  deriving DecidableEq, Repr

namespace PageRow

def ofRecord (r : Record) : PageRow where
  id := r.id
  parent := r.parent
  title := r.title
  content := r.content
  canonical := r.canonical.name
  published := if r.published then 1 else 0
  author := r.author
  lastModified := r.lastModified.offsetText

def record (key : String) (row : PageRow) : Except StoreError Record :=
  match CanonicalPolicy.ofName? row.canonical with
  | none => .error (.malformed .record key (CanonicalPolicy.unknownMessage row.canonical))
  | some canonical =>
    match Time.Strict.instant row.lastModified.toList with
    | .error e => .error (.malformed .record key ("bad last_modified: " ++ e.message))
    | .ok lastModified =>
      .ok
        { id := row.id, key, parent := row.parent, title := row.title, content := row.content
          canonical, published := row.published ≠ 0, author := row.author, lastModified }

def entry (key : String) (row : PageRow) : HierarchyEntry :=
  ⟨row.id, row.parent, row.title, key⟩

def isVisible (unpublished : Bool) (row : PageRow) : Bool :=
  unpublished || row.published = 1

end PageRow

namespace RedirectRow

def ofRule (rule : RedirectRule) : RedirectRow :=
  ⟨rule.target, rule.disposition.code.toNat.toInt64⟩

def rule (source : String) (row : RedirectRow) : Except StoreError RedirectRule :=
  match Disposition.ofCode? row.code.toInt with
  | some disposition => .ok ⟨source, row.target, disposition⟩
  | none => .error (.malformed .redirect source s!"unknown disposition {row.code}")

end RedirectRow

structure RelationalStore where
  version : Option Int64 := none
  pages : Option (Assoc String PageRow) := none
  redirects : Option (Assoc String RedirectRow) := none

namespace RelationalStore

def backend : String := "sqlite"

def internal (message : String) : StoreError :=
  .internal backend message

def noPages (action : String) : StoreError :=
  internal (action ++ ": no such table: pages")

def noRedirects (action : String) : StoreError :=
  internal (action ++ ": no such table: redirects")

def currentVersion : Int := 2

/-- The stored version. Without one, or if it does not fit 32 bits, the schema counts as new. -/
def storedVersion (s : RelationalStore) : Int :=
  match s.version with
  | some version =>
    if Int32.minValue.toInt ≤ version.toInt && version.toInt ≤ Int32.maxValue.toInt then
      version.toInt
    else 0
  | none => 0

def create (s : RelationalStore) : RelationalStore where
  version := some 2
  pages := some (s.pages.getD ∅)
  redirects := some (s.redirects.getD ∅)

/-- Brings the schema to the current version; a later one is left as it is. -/
def initSchema (s : RelationalStore) : Except StoreError Unit × RelationalStore :=
  let version := s.storedVersion
  if version = 0 then (.ok (), s.create)
  else if version = 1 then (.ok (), { s with version := some 2 })
  else if currentVersion ≤ version then (.ok (), s)
  else (.error (.migration s!"no migration path from schema version {version}"), s)

def fresh : RelationalStore :=
  create {}

/-- Writes a page under its key. A page that is there keeps its id; a new one must not take an id
that another page has. -/
def putPage (pages : Assoc String PageRow) (record : Record) :
    Except StoreError (Assoc String PageRow) :=
  let row := PageRow.ofRecord record
  match pages.get? record.key with
  | some present => .ok (pages.insert record.key { row with id := present.id })
  | none =>
    if pages.values.any (·.id = record.id) then .error (.duplicateKey .record (toString record.id))
    else .ok (pages.insert record.key row)

def putRecord (s : RelationalStore) (record : Record) : Except StoreError Unit × RelationalStore :=
  match s.pages with
  | none => (.error (noPages s!"Failed to write page '{record.key}'"), s)
  | some pages =>
    match putPage pages record with
    | .ok pages => (.ok (), { s with pages := some pages })
    | .error e => (.error e, s)

def putRedirect (s : RelationalStore) (rule : RedirectRule) :
    Except StoreError Unit × RelationalStore :=
  match s.redirects with
  | none => (.error (noRedirects s!"Failed to write redirect '{rule.source}'"), s)
  | some redirects =>
    (.ok (), { s with redirects := some (redirects.insert rule.source (.ofRule rule)) })

def findRecord (s : RelationalStore) (key : String) (unpublished : Bool) :
    Except StoreError (Option Record) :=
  match s.pages with
  | none => .error (noPages s!"Failed to read page '{key}'")
  | some pages =>
    match (pages.get? key).filter (PageRow.isVisible unpublished) with
    | none => .ok none
    | some row => (row.record key).map some

/-- The rule of the first source that has one and is no wildcard. All rows that the sources name are
read first, in the order of their sources. -/
def findRedirect (s : RelationalStore) (sources : List String) :
    Except StoreError (Option RedirectRule) :=
  if sources.isEmpty then .ok none
  else
    match s.redirects with
    | none => .error (noRedirects "Failed to prepare redirect lookup")
    | some redirects => do
      let rows := redirects.entries.filter fun e => e.1 ∈ sources
      let rules ← rows.mapM fun e => e.2.rule e.1
      return sources.findSome? fun source =>
        rules.find? fun rule => rule.source = source && !rule.isWildcard

def findWildcardRedirect (s : RelationalStore) (source : String) :
    Except StoreError (Option RedirectRule) :=
  match s.redirects with
  | none => .error (noRedirects "Failed to look up redirect")
  | some redirects =>
    match redirects.get? source with
    | none => .ok none
    | some row => (row.rule source).map some

def findAncestors (s : RelationalStore) (id : RecordId) : Except StoreError (List HierarchyEntry) :=
  match s.pages with
  | none => .error (noPages "Failed to prepare ancestor query")
  | some pages => .ok (Hierarchy.ancestors (pages.entries.map fun e => e.2.entry e.1) id)

def find (s : RelationalStore) : (q : Query) → Except StoreError q.Answer
  | .record key unpublished => s.findRecord key unpublished
  | .redirect sources => s.findRedirect sources
  | .wildcardRedirect source => s.findWildcardRedirect source
  | .ancestors id => s.findAncestors id

def answer (q : Query) (s : RelationalStore) : Except StoreError q.Answer × RelationalStore :=
  (s.find q, s)

def editPage (s : RelationalStore) (key : String) (f : PageRow → PageRow) : Nat × RelationalStore :=
  match s.pages.bind (·.get? key) with
  | some row => (1, { s with pages := s.pages.map (·.insert key (f row)) })
  | none => (0, s)

def editRedirect (s : RelationalStore) (source : String) (f : RedirectRow → RedirectRow) :
    Nat × RelationalStore :=
  match s.redirects.bind (·.get? source) with
  | some row => (1, { s with redirects := s.redirects.map (·.insert source (f row)) })
  | none => (0, s)

def editVersion (s : RelationalStore) (version : Int64) : Nat × RelationalStore :=
  match s.version with
  | some _ => (1, { s with version := some version })
  | none => (0, s)

end RelationalStore

end ContentServer
