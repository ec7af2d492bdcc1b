import ContentServer.Record

namespace ContentServer

inductive Entity where
  | record
  | redirect
  deriving DecidableEq, Repr

def Entity.name : Entity → String
  | record => "record"
  | redirect => "redirect"

inductive StoreError where
  | unavailable (backend message : String)
  | connectionFailed (backend message : String)
  | migration (message : String)
  | query (message : String)
  | internal (backend message : String)
  /-- A stored row does not spell a value. -/
  | malformed (entity : Entity) (key message : String)
  /-- A write would give two rows one key. -/
  | duplicateKey (entity : Entity) (key : String)
  deriving DecidableEq, Repr

def StoreError.message : StoreError → String
  | unavailable backend message => s!"backend unavailable: {backend}: {message}"
  | connectionFailed backend message => s!"connection failed to {backend}: {message}"
  | migration message => s!"schema migration failed: {message}"
  | query message => s!"query execution failed: {message}"
  | internal backend message => s!"internal error in {backend}: {message}"
  | malformed entity key message => s!"malformed {entity.name} '{key}': {message}"
  | duplicateKey entity key => s!"duplicate {entity.name} key: {key}"

inductive Query where
  /-- The record under a key; one that is not published only on demand. -/
  | record (key : String) (unpublished : Bool)
  /-- The rule of the first source that is no wildcard. -/
  | redirect (sources : List String)
  | wildcardRedirect (source : String)
  | ancestors (id : RecordId)
  deriving DecidableEq, Repr

abbrev Query.Answer : Query → Type
  | record _ _ => Option Record
  | redirect _ => Option RedirectRule
  | wildcardRedirect _ => Option RedirectRule
  | ancestors _ => List HierarchyEntry

/-- A kind of store: a backend with a name, whose states answer queries. -/
class RecordStore (σ : Type) where
  backend : σ → String
  answer : (q : Query) → σ → Except StoreError q.Answer × σ

/-- A computation that asks a store for records, rules and ancestors. It goes on from whatever the
store says, also from an error, and ends in a result or in an error. -/
inductive Lookup (α : Type) where
  | done (result : Except StoreError α)
  | ask (query : Query) (next : Except StoreError query.Answer → Lookup α)

namespace Lookup

variable {α β σ : Type}

def query (q : Query) : Lookup q.Answer :=
  ask q done

def bind (l : Lookup α) (f : α → Lookup β) : Lookup β :=
  match l with
  | done (.ok a) => f a
  | done (.error e) => done (.error e)
  | ask q next => ask q fun told => (next told).bind f

instance : Monad Lookup where
  pure a := done (.ok a)
  bind := bind

def run (answer : (q : Query) → σ → Except StoreError q.Answer × σ) :
    Lookup α → σ → Except StoreError α × σ
  | done result, s => (result, s)
  | ask q next, s => run answer (next (answer q s).1) (answer q s).2

end Lookup

end ContentServer
