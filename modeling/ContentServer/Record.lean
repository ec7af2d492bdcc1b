import ContentServer.Canonical
import ContentServer.Redirect
import ContentServer.Time.Instant

namespace ContentServer

structure Breadcrumb where
  title : String
  href : Option String
  deriving DecidableEq, Repr

namespace Breadcrumb

def link (title href : String) : Breadcrumb :=
  ⟨title, some href⟩

def plain (title : String) : Breadcrumb :=
  ⟨title, none⟩

end Breadcrumb

abbrev RecordId := Int64

/-- A stored page. Its key is an exact path, or a path below which it answers for everything. -/
structure Record where
  id : RecordId
  key : String
  parent : Option RecordId
  title : String
  content : String
  canonical : CanonicalPolicy
  published : Bool
  author : Option String
  lastModified : Instant
  deriving DecidableEq, Repr

def Record.isWildcard (record : Record) : Bool :=
  ContentServer.isWildcard record.key

structure HierarchyEntry where
  id : RecordId
  parent : Option RecordId
  title : String
  key : String
  deriving DecidableEq, Repr

def Record.entry (record : Record) : HierarchyEntry :=
  ⟨record.id, record.parent, record.title, record.key⟩

structure HierarchyCycle where
  id : RecordId
  deriving DecidableEq, Repr

def HierarchyCycle.message (cycle : HierarchyCycle) : String :=
  s!"breadcrumb hierarchy contains a cycle at record {cycle.id}"

namespace Hierarchy

def find? (entries : List HierarchyEntry) (id : RecordId) : Option HierarchyEntry :=
  entries.find? (·.id = id)

def unseen (entries : List HierarchyEntry) (seen : List RecordId) : List HierarchyEntry :=
  entries.filter (·.id ∉ seen)

theorem length_unseen_cons_lt {entries : List HierarchyEntry} {seen : List RecordId} {id : RecordId}
    {entry : HierarchyEntry} (hid : id ∉ seen) (h : find? entries id = some entry) :
    (unseen entries (id :: seen)).length < (unseen entries seen).length := by
  have hsub : unseen entries (id :: seen) = (unseen entries seen).filter (·.id ≠ id) := by
    simp only [unseen, List.filter_filter, List.mem_cons, not_or]
    congr 1
    funext e
    simp
  have hmem : entry ∈ unseen entries seen := by
    have he : entry.id = id := by simpa using List.find?_some h
    simp [unseen, List.mem_of_find?_eq_some h, he, hid]
  rw [hsub]
  apply List.length_filter_lt_length_iff_exists.mpr
  exact ⟨entry, hmem, by simpa using List.find?_some h⟩

/-- The entries met on the way up from `next`, nearest first, and the id that was met again, if any.
A null or unknown parent ends the way. -/
def climb (entries : List HierarchyEntry) (seen : List RecordId) :
    Option RecordId → List HierarchyEntry × Option RecordId
  | none => ([], none)
  | some id =>
    if _hid : id ∈ seen then ([], some id)
    else
      match _h : find? entries id with
      | none => ([], none)
      | some entry =>
        let (above, again) := climb entries (id :: seen) entry.parent
        (entry :: above, again)
termination_by (unseen entries seen).length
decreasing_by exact length_unseen_cons_lt _hid _h

def ancestors (entries : List HierarchyEntry) (id : RecordId) : List HierarchyEntry :=
  (climb entries [] (some id)).1

/-- The trail from the topmost ancestor down to `current`. Of entries with one id the last
counts. -/
def trail (entries : List HierarchyEntry) (current : RecordId) :
    Except HierarchyCycle (List Breadcrumb) :=
  match climb entries.reverse [] (some current) with
  | (chain, none) => .ok ((chain.map fun e => .link e.title e.key).reverse)
  | (_, some id) => .error ⟨id⟩

end Hierarchy

end ContentServer
