import ContentServer.Proofs.Lookup
import ContentServer.Proofs.Store.Mirror
import Mathlib.Logic.Basic

namespace ContentServer

theorem findSome?_congr {α β : Type} {f g : α → Option β} {l : List α} (h : ∀ a ∈ l, f a = g a) :
    l.findSome? f = l.findSome? g := by
  induction l with
  | nil => rfl
  | cons a l ih =>
    rw [List.findSome?_cons, List.findSome?_cons, h a List.mem_cons_self,
      ih fun b hb => h b (List.mem_cons_of_mem _ hb)]

namespace RelationalStore

variable {s : RelationalStore} {rows : Assoc String RedirectRow} (hrows : s.redirects = some rows)

include hrows

theorem exists_findWildcardRedirect_iff (source : String) :
    (∃ found, s.findWildcardRedirect source = .ok found) ↔
      ∀ row, rows.get? source = some row → ∃ r, row.rule source = .ok r := by
  rw [findWildcardRedirect_eq hrows]
  cases rows.get? source with
  | none => exact iff_of_true ⟨none, rfl⟩ nofun
  | some row =>
    dsimp only
    cases hr : row.rule source with
    | error e =>
      refine iff_of_false (fun ⟨_, hfound⟩ => by cases hfound) fun h => ?_
      obtain ⟨r, hr'⟩ := h row rfl
      rw [hr] at hr'
      cases hr'
    | ok r => exact iff_of_true ⟨some r, rfl⟩ fun _ h => ⟨r, Option.some.inj h ▸ hr⟩

variable {sources : List String} (hne : sources ≠ [])

include hne

theorem findRedirect_of_rows
    (hok : ∀ e ∈ rows.entries.filter (fun e => decide (e.1 ∈ sources)), ∃ r, e.2.rule e.1 = .ok r) :
    s.findRedirect sources =
      .ok (sources.findSome? fun source => (rows.get? source).bind (RedirectRow.plainRule? source)) := by
  obtain ⟨rules, hrules, hfind⟩ := RedirectRow.mapM_rule hok
  have hlookup : ∀ source ∈ sources, rules.find? (fun r => r.source = source && !r.isWildcard) =
      (rows.get? source).bind (RedirectRow.plainRule? source) := by
    intro source hsource
    rw [hfind, Assoc.lookup_filter_mem hsource, Assoc.get?]
  rw [findRedirect, if_neg (by simpa using hne), hrows]
  dsimp only
  rw [hrules]
  exact congrArg Except.ok (findSome?_congr hlookup)

theorem findRedirect_eq_ok_iff (hkeys : rows.keys.Nodup) {found : Option RedirectRule} :
    s.findRedirect sources = .ok found ↔
      (∀ source ∈ sources, ∃ one, s.findWildcardRedirect source = .ok one) ∧
        sources.findSome? (fun source => (rows.get? source).bind (RedirectRow.plainRule? source)) =
          found := by
  have hread : (∀ source ∈ sources, ∃ one, s.findWildcardRedirect source = .ok one) ↔
      ∀ e ∈ rows.entries.filter (fun e => decide (e.1 ∈ sources)), ∃ r, e.2.rule e.1 = .ok r := by
    simp only [exists_findWildcardRedirect_iff hrows, List.mem_filter, decide_eq_true_eq]
    refine ⟨fun h e he => h e.1 he.2 e.2 (Assoc.lookup_of_mem hkeys he.1),
      fun h source hsource row hrow => ?_⟩
    exact h (source, row) ⟨Assoc.mem_of_lookup hrow, hsource⟩
  constructor
  · intro h
    -- the rows that the sources name are all read before any of them is looked at
    have hok :
        ∀ e ∈ rows.entries.filter (fun e => decide (e.1 ∈ sources)), ∃ r, e.2.rule e.1 = .ok r := by
      rw [findRedirect, if_neg (by simpa using hne), hrows] at h
      dsimp only at h
      cases hrules : (rows.entries.filter fun e => decide (e.1 ∈ sources)).mapM fun e => e.2.rule e.1 with
      | error e =>
        rw [hrules] at h
        cases h
      | ok rules => exact RedirectRow.exists_rule_of_mapM hrules
    rw [findRedirect_of_rows hrows hne hok] at h
    exact ⟨hread.mpr hok, Except.ok.inj h⟩
  · rintro ⟨hall, rfl⟩
    exact findRedirect_of_rows hrows hne (hread.mp hall)

end RelationalStore

/-- The source is the primary key of a table of redirects. -/
def Store.HasUniqueSources : Store → Prop
  | memory _ => True
  | relational store => ∀ rows, store.redirects = some rows → rows.keys.Nodup

/-- Does the store answer that no rule has this source, or a wildcard? -/
def Store.LacksPlainRule (store : Store) (source : String) : Prop :=
  ∃ found, (store.answer (.wildcardRedirect source)).1 = .ok found ∧ ∀ r ∈ found, r.isWildcard

namespace Store

def Reads (store : Store) (source : String) : Prop :=
  ∃ found, (store.answer (.wildcardRedirect source)).1 = .ok found

def plainRule? (store : Store) (source : String) : Option RedirectRule :=
  ((store.answer (.wildcardRedirect source)).1.toOption.getD none).filter (!·.isWildcard)

variable {store : Store} {source : String}

theorem plainRule?_of_ok {found : Option RedirectRule}
    (h : (store.answer (.wildcardRedirect source)).1 = .ok found) :
    store.plainRule? source = found.filter (!·.isWildcard) := by
  rw [plainRule?, h]
  rfl

theorem answer_relational (s : RelationalStore) (q : Query) :
    ((relational s).answer q).1 = s.find q := rfl

theorem plainRule?_relational {s : RelationalStore} {rows : Assoc String RedirectRow}
    (hrows : s.redirects = some rows) (source : String) :
    (relational s).plainRule? source = (rows.get? source).bind (RedirectRow.plainRule? source) := by
  rw [plainRule?, answer_relational, RelationalStore.find,
    RelationalStore.findWildcardRedirect_eq hrows]
  cases rows.get? source with
  | none => rfl
  | some row =>
    rw [Option.bind_some, RedirectRow.plainRule?]
    dsimp only
    cases row.rule source <;> rfl

theorem lacksPlainRule_iff :
    store.LacksPlainRule source ↔ store.Reads source ∧ store.plainRule? source = none := by
  constructor
  · rintro ⟨found, hfound, hwildcard⟩
    refine ⟨⟨found, hfound⟩, ?_⟩
    rw [plainRule?_of_ok hfound, Option.filter_eq_none_iff]
    simpa using hwildcard
  · rintro ⟨⟨found, hfound⟩, hnone⟩
    refine ⟨found, hfound, ?_⟩
    rw [plainRule?_of_ok hfound, Option.filter_eq_none_iff] at hnone
    simpa using hnone

/-- The query for several sources is answered if each of them alone is, and then with the first
plain rule. -/
theorem answer_redirect_eq_ok_iff (h : store.HasUniqueSources) {sources : List String}
    (hne : sources ≠ []) {found : Option RedirectRule} :
    (store.answer (.redirect sources)).1 = .ok found ↔
      (∀ source ∈ sources, store.Reads source) ∧ sources.findSome? store.plainRule? = found := by
  obtain ⟨first, hfirst⟩ := List.exists_mem_of_ne_nil sources hne
  cases store with
  | memory store =>
    cases hoffline : store.offline with
    | true =>
      have herror : ∀ q, ((memory store).answer q).1 = .error MemoryStore.offlineError :=
        fun q => by
        rw [answer_memory, if_pos hoffline]
      refine iff_of_false (fun hfound => ?_) fun hfound => ?_
      · rw [herror] at hfound
        cases hfound
      · obtain ⟨one, hone⟩ := hfound.1 first hfirst
        rw [herror] at hone
        cases hone
    | false =>
      have htold : ∀ q, ((memory store).answer q).1 = .ok (store.find q) := fun q => by
        rw [answer_memory, if_neg (by simp [hoffline])]
      have hfind : sources.findSome? (memory store).plainRule? = store.find (.redirect sources) :=
        findSome?_eq_find?_filterMap fun source _ => plainRule?_of_ok (htold (.wildcardRedirect source))
      rw [htold, hfind, Except.ok.injEq]
      exact (and_iff_right fun source _ => ⟨_, htold (.wildcardRedirect source)⟩).symm
  | relational store =>
    cases hrows : store.redirects with
    | none =>
      refine iff_of_false (fun hfound => ?_) fun hfound => ?_
      · rw [answer_relational, RelationalStore.find, RelationalStore.findRedirect,
          if_neg (by simpa using hne), hrows] at hfound
        cases hfound
      · obtain ⟨one, hone⟩ := hfound.1 first hfirst
        rw [answer_relational, RelationalStore.find, RelationalStore.findWildcardRedirect,
          hrows] at hone
        cases hone
    | some rows =>
      have hplain := funext (plainRule?_relational hrows)
      rw [hplain]
      exact RelationalStore.findRedirect_eq_ok_iff hrows hne (h rows hrows)

theorem answer_redirect_eq_none_iff (h : store.HasUniqueSources) {sources : List String}
    (hne : sources ≠ []) :
    (store.answer (.redirect sources)).1 = .ok none ↔
      ∀ source ∈ sources, store.LacksPlainRule source := by
  rw [answer_redirect_eq_ok_iff h hne, List.findSome?_eq_none_iff, ← forall₂_and]
  exact forall₂_congr fun source _ => lacksPlainRule_iff.symm

theorem answer_redirect_eq_rule_iff (h : store.HasUniqueSources) {before after : List String}
    {r : RedirectRule} (hbefore : ∀ source ∈ before, store.LacksPlainRule source)
    (hr : (store.answer (.wildcardRedirect source)).1 = .ok (some r))
    (hplain : r.isWildcard = false) :
    (store.answer (.redirect (before ++ source :: after))).1 = .ok (some r) ↔
      ∀ source ∈ after, store.Reads source := by
  have hnone : before.findSome? store.plainRule? = none :=
    List.findSome?_eq_none_iff.mpr fun source hs => (lacksPlainRule_iff.mp (hbefore source hs)).2
  have hfirst : (before ++ source :: after).findSome? store.plainRule? = some r := by
    rw [List.findSome?_append, hnone, Option.none_or, List.findSome?_cons, plainRule?_of_ok hr,
      Option.filter_some, hplain]
    rfl
  rw [answer_redirect_eq_ok_iff h (by simp), and_iff_left hfirst, List.forall_mem_append,
    List.forall_mem_cons]
  refine ⟨fun hall => hall.2.2, fun hafter => ⟨fun source hs => ?_, ⟨some r, hr⟩, hafter⟩⟩
  exact (lacksPlainRule_iff.mp (hbefore source hs)).1

end Store

end ContentServer
