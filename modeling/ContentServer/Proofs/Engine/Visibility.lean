import ContentServer.Proofs.Engine.Plan
import ContentServer.Proofs.Store.Mirror
import ContentServer.Store.Basic

namespace ContentServer

namespace Query

/-- Is the answer to this query made of published records and redirect rules only? -/
def IsPublic : Query → Prop
  | record _ unpublished => unpublished = false
  | redirect _ => True
  | wildcardRedirect _ => True
  | ancestors _ => False

theorem IsRedirect.isPublic {q : Query} (h : q.IsRedirect) : q.IsPublic := by
  cases q with
  | record key unpublished => exact h.elim
  | redirect sources => exact trivial
  | wildcardRedirect source => exact trivial
  | ancestors id => exact h.elim

end Query

namespace Engine

variable (engine : Engine) {request : PageRequest}

theorem plan_asks (hpublic : request.unpublished = false) :
    (engine.plan request).Asks Query.IsPublic := by
  have hrecord : ∀ q : Query, (∃ key, q = .record key request.unpublished) → q.IsPublic := by
    rintro _ ⟨key, rfl⟩
    exact hpublic
  unfold plan
  refine Lookup.Asks.bind ((Resolver.resolve_asks _ _).mono hrecord) fun found => ?_
  split
  · exact trivial
  · refine Lookup.Asks.bind ((engine.redirectOutcome_asks _ _).mono ?_) fun _ => trivial
    exact fun _ => Query.IsRedirect.isPublic

end Engine

/-- Two stores in memory with the same redirect rules and the same published records. What they hold
besides, and the index from ids to keys, may differ. -/
structure MemoryStore.SamePublished (s t : MemoryStore) : Prop where
  offline : s.offline = t.offline
  redirects : s.redirects = t.redirects
  records : ∀ key, (s.records.get? key).filter (·.published) =
    (t.records.get? key).filter (·.published)

structure RelationalStore.SamePublished (s t : RelationalStore) : Prop where
  redirects : s.redirects = t.redirects
  pages : ∀ key, s.pages.map (fun pages => (pages.get? key).filter (PageRow.isVisible false)) =
    t.pages.map fun pages => (pages.get? key).filter (PageRow.isVisible false)

/-- A database with the redirect rules and the published records of a store in memory. -/
structure RelationalStore.MirrorsPublished (t : RelationalStore) (s : MemoryStore) : Prop where
  online : s.offline = false
  redirects : ∃ rows, t.redirects = some rows ∧ RedirectRow.Spell rows s.redirects
  pages : ∃ pages, t.pages = some pages ∧ ∀ key,
    ((pages.get? key).filter (PageRow.isVisible false)).map (PageRow.record key) =
      ((s.records.get? key).filter (·.published)).map .ok

def Store.SamePublished : Store → Store → Prop
  | memory s, memory t => s.SamePublished t
  | relational s, relational t => s.SamePublished t
  | memory s, relational t => t.MirrorsPublished s
  | relational s, memory t => s.MirrorsPublished t

theorem MemoryStore.SamePublished.find {s t : MemoryStore} (h : s.SamePublished t) {q : Query}
    (hq : q.IsPublic) : s.find q = t.find q := by
  cases q with
  | record key unpublished =>
    obtain rfl : unpublished = false := hq
    simpa only [MemoryStore.find, Bool.false_or] using h.records key
  | redirect sources => simp only [MemoryStore.find, h.redirects]
  | wildcardRedirect source => simp only [MemoryStore.find, h.redirects]
  | ancestors id => exact hq.elim

theorem RelationalStore.SamePublished.find {s t : RelationalStore} (h : s.SamePublished t)
    {q : Query} (hq : q.IsPublic) : s.find q = t.find q := by
  cases q with
  | record key unpublished =>
    obtain rfl : unpublished = false := hq
    have hkey := h.pages key
    simp only [RelationalStore.find, RelationalStore.findRecord]
    cases hs : s.pages with
    | none =>
      cases ht : t.pages with
      | none => rfl
      | some _ => simp [hs, ht] at hkey
    | some _ =>
      cases ht : t.pages with
      | none => simp [hs, ht] at hkey
      | some _ =>
        simp only [hs, ht, Option.map_some, Option.some.injEq] at hkey
        simp only [hkey]
  | redirect sources => simp only [RelationalStore.find, RelationalStore.findRedirect, h.redirects]
  | wildcardRedirect source =>
    simp only [RelationalStore.find, RelationalStore.findWildcardRedirect, h.redirects]
  | ancestors id => exact hq.elim

theorem RelationalStore.MirrorsPublished.find {t : RelationalStore} {s : MemoryStore}
    (h : t.MirrorsPublished s) {q : Query} (hq : q.IsPublic) : t.find q = .ok (s.find q) := by
  cases q with
  | record key unpublished =>
    obtain rfl : unpublished = false := hq
    obtain ⟨pages, hpages, hrecords⟩ := h.pages
    have hkey := hrecords key
    simp only [RelationalStore.find, RelationalStore.findRecord, hpages, MemoryStore.find,
      Bool.false_or]
    cases hrow : (pages.get? key).filter (PageRow.isVisible false) with
    | none =>
      rw [hrow, Option.map_none] at hkey
      rw [Option.map_eq_none_iff.mp hkey.symm]
    | some row =>
      rw [hrow, Option.map_some] at hkey
      obtain ⟨record, hrecord, hread⟩ := Option.map_eq_some_iff.mp hkey.symm
      rw [hrecord]
      dsimp only
      rw [← hread]
      rfl
  | redirect sources =>
    obtain ⟨rows, hrows, hspell⟩ := h.redirects
    exact RelationalStore.findRedirect_spell hrows hspell sources
  | wildcardRedirect source =>
    obtain ⟨rows, hrows, hspell⟩ := h.redirects
    exact RelationalStore.findWildcardRedirect_spell hrows hspell source
  | ancestors id => exact hq.elim

namespace Store

theorem SamePublished.answer_eq {s t : Store} (h : s.SamePublished t) {q : Query} (hq : q.IsPublic) :
    (answer q s).1 = (answer q t).1 := by
  match s, t, h with
  | memory s, memory t, h =>
    simp only [Store.answer, MemoryStore.answer, Prod.map, id_eq, h.offline, h.find hq]
  | relational s, relational t, h =>
    simp only [Store.answer, RelationalStore.answer, Prod.map, id_eq, h.find hq]
  | memory s, relational t, h =>
    have hfind := RelationalStore.MirrorsPublished.find h hq
    have honline := RelationalStore.MirrorsPublished.online h
    simp [Store.answer, MemoryStore.answer, RelationalStore.answer, honline, hfind]
  | relational s, memory t, h =>
    have hfind := RelationalStore.MirrorsPublished.find h hq
    have honline := RelationalStore.MirrorsPublished.online h
    simp [Store.answer, MemoryStore.answer, RelationalStore.answer, honline, hfind]

end Store

namespace Engine

variable (engine : Engine)

def respond (request : PageRequest) (store : Store) :
    Except StoreError (Except HierarchyCycle Outcome) :=
  ((engine.handle request).run Store.answer store).1

theorem respond_eq (request : PageRequest) (store : Store) :
    engine.respond request store =
      match ((engine.plan request).run Store.answer store).1 with
      | .error e => .error e
      | .ok (.outcome outcome) => .ok (.ok outcome)
      | .ok (.page page own) => (store.answer (.ancestors page.recordId)).1.map (page.trailed own) :=
  engine.run_handle_eq Store.steady_answer request store

/-- On two stores that differ in unpublished records only, a public request comes to the same, or to
one page whose breadcrumbs alone depend on the store: they follow all ancestors, published or not.
Where the stores tell the same ancestors, it always comes to the same. -/
theorem respond_samePublished {request : PageRequest} (hpublic : request.unpublished = false)
    {s t : Store} (h : s.SamePublished t) :
    (engine.respond request s = engine.respond request t ∨
      ∃ (page : Page) (own : List Breadcrumb),
        engine.respond request s = (s.answer (.ancestors page.recordId)).1.map (page.trailed own) ∧
        engine.respond request t = (t.answer (.ancestors page.recordId)).1.map (page.trailed own)) ∧
    ((∀ id, (s.answer (.ancestors id)).1 = (t.answer (.ancestors id)).1) →
      engine.respond request s = engine.respond request t) := by
  have hplan := Store.steady_answer.run_eq Store.steady_answer (engine.plan_asks hpublic)
    fun _ hq => h.answer_eq hq
  rw [respond_eq, respond_eq, hplan]
  cases ((engine.plan request).run Store.answer t).1 with
  | error e => exact ⟨.inl rfl, fun _ => rfl⟩
  | ok plan =>
    cases plan with
    | outcome outcome => exact ⟨.inl rfl, fun _ => rfl⟩
    | page page own =>
      exact ⟨.inr ⟨page, own, rfl, rfl⟩, fun hancestors => by dsimp only; rw [hancestors]⟩

end Engine

/-- A draft under a key without a published record makes no difference to the published records. -/
theorem MemoryStore.samePublished_putRecord {s : MemoryStore} {record : Record}
    (hdraft : record.published = false)
    (hkey : (s.records.get? record.key).filter (·.published) = none) :
    s.SamePublished (s.putRecord record) := by
  refine ⟨rfl, rfl, fun key => ?_⟩
  by_cases hk : key = record.key
  · subst hk
    rw [hkey, putRecord, Assoc.get?_insert_self, Option.filter_some, hdraft]
    rfl
  · rw [putRecord, Assoc.get?_insert_of_ne _ hk]

namespace Visibility

def noon : Instant :=
  (Instant.ofFields? ⟨2024, 1, 1, by decide⟩ 12 0 0 0).get (by decide)

def guide : Record where
  id := 2
  key := "/guide"
  parent := some 1
  title := "Guide"
  content := ""
  canonical := .requireSlash
  published := true
  author := none
  lastModified := noon

def draft : Record :=
  { guide with id := 1, key := "/draft", parent := none, title := "Draft", published := false }

def engine : Engine :=
  ⟨{ registry := .empty }, {}⟩

def request : PageRequest :=
  { path := "/guide/" }

def before : MemoryStore :=
  MemoryStore.putRecord {} guide

def after : MemoryStore :=
  before.putRecord draft

def breadcrumbs? : Except StoreError (Except HierarchyCycle Outcome) → Option (List Breadcrumb)
  | .ok (.ok (.page page)) => some page.breadcrumbs
  | _ => none

theorem before_samePublished_after : Store.SamePublished (.memory before) (.memory after) :=
  MemoryStore.samePublished_putRecord rfl (by decide +kernel)

theorem respond_guide :
    (request.unpublished = false ∧ Store.SamePublished (.memory before) (.memory after)) ∧
    (engine.respond request (.memory before) = engine.respond request (.memory after) ∨
      ∃ (page : Page) (own : List Breadcrumb),
        engine.respond request (.memory before) =
          ((Store.memory before).answer (.ancestors page.recordId)).1.map (page.trailed own) ∧
        engine.respond request (.memory after) =
          ((Store.memory after).answer (.ancestors page.recordId)).1.map (page.trailed own)) :=
  ⟨⟨rfl, before_samePublished_after⟩,
    (engine.respond_samePublished rfl before_samePublished_after).1⟩

/-- The title of an unpublished parent shows in the trail of a published page. -/
theorem respond_draft_ne :
    request.unpublished = false ∧ Store.SamePublished (.memory before) (.memory after) ∧
    engine.respond request (.memory before) ≠ engine.respond request (.memory after) :=
  ⟨rfl, before_samePublished_after, fun h => absurd (congrArg breadcrumbs? h) (by decide +kernel)⟩

end Visibility

end ContentServer
