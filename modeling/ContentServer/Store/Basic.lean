import ContentServer.Document.Seed
import ContentServer.Store.Memory
import ContentServer.Store.Relational

namespace ContentServer

inductive Store where
  | memory (store : MemoryStore)
  | relational (store : RelationalStore)

namespace Store

def backend : Store → String
  | memory _ => "memory"
  | relational _ => RelationalStore.backend

def answer (q : Query) : Store → Except StoreError q.Answer × Store
  | memory store => (store.answer q).map id memory
  | relational store => (store.answer q).map id relational

instance : RecordStore Store := ⟨backend, answer⟩

def putRecord (record : Record) : Store → Except StoreError Unit × Store
  | memory store => (.ok (), memory (store.putRecord record))
  | relational store => (store.putRecord record).map id relational

def putRedirect (rule : RedirectRule) : Store → Except StoreError Unit × Store
  | memory store => (.ok (), memory (store.putRedirect rule))
  | relational store => (store.putRedirect rule).map id relational

/-- Writes one value after another; the first that fails ends it. -/
def putAll {α : Type} (put : α → Store → Except StoreError Unit × Store) :
    List α → Store → Except StoreError Unit × Store
  | [], store => (.ok (), store)
  | a :: l, store =>
    match put a store with
    | (.ok (), store) => putAll put l store
    | (.error e, store) => (.error e, store)

end Store

structure SeedCounts where
  records : Nat
  redirects : Nat
  deriving DecidableEq, Repr

def Seed.apply (seed : Seed) (store : Store) : Except StoreError SeedCounts × Store :=
  match Store.putAll Store.putRecord seed.records store with
  | (.error e, store) => (.error e, store)
  | (.ok (), store) =>
    match Store.putAll Store.putRedirect seed.redirects store with
    | (.error e, store) => (.error e, store)
    | (.ok (), store) => (.ok ⟨seed.records.length, seed.redirects.length⟩, store)

end ContentServer
