import ContentServer.Assoc
import ContentServer.Record
import ContentServer.Store.Lookup

namespace ContentServer

structure MemoryStore where
  records : Assoc String Record := ∅
  keyOf : Assoc RecordId String := ∅
  redirects : Assoc String RedirectRule := ∅
  logging : Bool := false
  /-- The keys looked up so far, the latest last; those of redirects are marked. -/
  probes : List String := []
  offline : Bool := false

namespace MemoryStore

/-- Stores a record under its key. The id of a record that it replaces is forgotten first. -/
def putRecord (s : MemoryStore) (record : Record) : MemoryStore :=
  let keyOf :=
    match s.records.get? record.key with
    | some previous => s.keyOf.erase previous.id
    | none => s.keyOf
  { s with
    records := s.records.insert record.key record
    keyOf := keyOf.insert record.id record.key }

def putRedirect (s : MemoryStore) (rule : RedirectRule) : MemoryStore :=
  { s with redirects := s.redirects.insert rule.source rule }

def redirectMark : String := "redirect:"

/-- The keys that a query looks up, as the log shows them. -/
def probesOf : Query → List String
  | .record key _ => [key]
  | .redirect sources => sources.map (redirectMark ++ ·)
  | .wildcardRedirect source => [redirectMark ++ source]
  | .ancestors _ => []

def log (s : MemoryStore) (q : Query) : MemoryStore :=
  if s.logging then { s with probes := s.probes ++ probesOf q } else s

def recordLookups (s : MemoryStore) : Nat :=
  (s.probes.filter fun probe => !redirectMark.toList.isPrefixOf probe.toList).length

def entries (s : MemoryStore) : List HierarchyEntry :=
  s.keyOf.entries.filterMap fun (_, key) => (s.records.get? key).map Record.entry

def find (s : MemoryStore) : (q : Query) → q.Answer
  | .record key unpublished => (s.records.get? key).filter fun r => unpublished || r.published
  | .redirect sources => (sources.filterMap s.redirects.get?).find? (!·.isWildcard)
  | .wildcardRedirect source => s.redirects.get? source
  | .ancestors id => Hierarchy.ancestors s.entries id

def offlineError : StoreError :=
  .unavailable "memory" "store marked offline"

def answer (q : Query) (s : MemoryStore) : Except StoreError q.Answer × MemoryStore :=
  (if s.offline then .error offlineError else .ok (s.find q), s.log q)

end MemoryStore

end ContentServer
