import ContentServer.Proofs.Engine.Visibility
import ContentServer.Proofs.Store.IdIndex
import ContentServer.Proofs.Store.ReadBack

namespace ContentServer

/-- Is no key written under two ids and no id under two keys, and does every year take four
digits? -/
structure Unambiguous (writes : List Write) : Prop where
  key_eq_iff : ∀ r r', .record r ∈ writes → .record r' ∈ writes → (r.key = r'.key ↔ r.id = r'.id)
  plainYear : ∀ r, .record r ∈ writes → r.lastModified.date.HasPlainYear

theorem Unambiguous.of_append {writes later : List Write} (h : Unambiguous (writes ++ later)) :
    Unambiguous writes where
  key_eq_iff r r' hr hr' := h.key_eq_iff r r' (List.mem_append_left _ hr) (List.mem_append_left _ hr')
  plainYear r hr := h.plainYear r (List.mem_append_left _ hr)

theorem RedirectRow.rule_ofRule (r : RedirectRule) :
    (RedirectRow.ofRule r).rule r.source = .ok r := by
  obtain ⟨source, target, disposition⟩ := r
  cases disposition <;> rfl

theorem PageRow.isVisible_ofRecord (unpublished : Bool) (r : Record) :
    PageRow.isVisible unpublished (.ofRecord r) = (unpublished || r.published) := by
  cases hp : r.published <;> simp [PageRow.isVisible, PageRow.ofRecord, hp]

def RelationalStore.hierarchy (s : RelationalStore) : List HierarchyEntry :=
  match s.pages with
  | none => []
  | some pages => pages.entries.map fun e => e.2.entry e.1

namespace MemoryStore

variable {s : MemoryStore} {writes : List Write} {r : Record} {rule : RedirectRule}

def write (s : MemoryStore) : Write → MemoryStore
  | .record r => s.putRecord r
  | .redirect rule => s.putRedirect rule

def after (s : MemoryStore) (writes : List Write) : MemoryStore :=
  writes.foldl write s

def toTables (s : MemoryStore) : RelationalStore where
  version := some 2
  pages := some (s.records.mapValues .ofRecord)
  redirects := some (s.redirects.mapValues .ofRule)

/-- What a history of writes leaves: every record and rule stands under its own key, the records
were written, and the index leads to all of them. -/
structure Holds (s : MemoryStore) (writes : List Write) : Prop where
  online : s.offline = false
  indexed : s.Indexed
  sorted : s.records.Sorted
  redirectsSorted : s.redirects.Sorted
  written : ∀ key r, s.records.get? key = some r → .record r ∈ writes
  keyOf_eq : ∀ key r, s.records.get? key = some r → s.keyOf.get? r.id = some key
  source_eq : ∀ source rule, s.redirects.get? source = some rule → rule.source = source

theorem Holds.empty (logging : Bool) : Holds { logging } [] where
  online := rfl
  indexed := .of_empty rfl rfl
  sorted := .empty
  redirectsSorted := .empty
  written _ _ := nofun
  keyOf_eq _ _ := nofun
  source_eq _ _ := nofun

theorem Holds.get?_of_mem (h : s.Holds writes) {e : String × Record} (he : e ∈ s.records.entries) :
    s.records.get? e.1 = some e.2 :=
  Assoc.lookup_of_mem h.sorted.nodup he

theorem Holds.putRedirect (h : s.Holds writes) (rule : RedirectRule) :
    (s.putRedirect rule).Holds (writes ++ [.redirect rule]) where
  online := h.online
  indexed := ⟨h.indexed.key_eq, h.indexed.idAt?_eq⟩
  sorted := h.sorted
  redirectsSorted := h.redirectsSorted.insert rule.source rule
  written key r hr := List.mem_append_left _ (h.written key r hr)
  keyOf_eq := h.keyOf_eq
  source_eq source found hfound := by
    obtain ⟨rfl, rfl⟩ | ⟨-, hfound⟩ := Assoc.get?_insert_eq_some_iff.mp hfound
    · rfl
    · exact h.source_eq source found hfound

section Record

variable (h : s.Holds writes) (hwrites : Unambiguous (writes ++ [.record r]))

include h hwrites

theorem Holds.id_iff {key : String} {old : Record} (hold : s.records.get? key = some old) :
    old.id = r.id ↔ key = r.key := by
  have hmem : .record old ∈ writes ++ [Write.record r] :=
    List.mem_append_left _ (h.written key old hold)
  rw [← hwrites.key_eq_iff old r hmem (by simp), h.indexed.key_eq key old hold]

theorem Holds.putRecord : (s.putRecord r).Holds (writes ++ [.record r]) where
  online := h.online
  indexed := h.indexed.putRecord r
  sorted := h.sorted.insert r.key r
  redirectsSorted := h.redirectsSorted
  source_eq := h.source_eq
  written key found hfound := by
    obtain ⟨rfl, rfl⟩ | ⟨-, hfound⟩ := Assoc.get?_insert_eq_some_iff.mp hfound
    · simp
    · exact List.mem_append_left _ (h.written key found hfound)
  keyOf_eq key found hfound := by
    obtain ⟨rfl, rfl⟩ | ⟨hkey, hfound⟩ := Assoc.get?_insert_eq_some_iff.mp hfound
    · rw [keyOf_putRecord_self]
    · have hid : found.id ≠ r.id := fun hid => hkey ((h.id_iff hwrites hfound).mp hid)
      -- a record that the write replaces has the id of the new one
      have hkept : s.idAt? r.key ≠ some found.id := by
        intro hheld
        obtain ⟨old, hold, holdid⟩ := Option.map_eq_some_iff.mp hheld
        exact hid (holdid.symm.trans ((h.id_iff hwrites hold).mpr rfl))
      rw [keyOf_putRecord_of_ne s r hid, if_neg hkept]
      exact h.keyOf_eq key found hfound

/-- The tables take the write as the store in memory does: what is replaced had the same id, and a
new id is not in use. -/
theorem Holds.toTables_putRecord : s.toTables.putRecord r = (.ok (), (s.putRecord r).toTables) := by
  have hpage : RelationalStore.putPage (s.records.mapValues .ofRecord) r =
      .ok ((s.putRecord r).records.mapValues .ofRecord) := by
    rw [records_putRecord, Assoc.mapValues_insert]
    obtain ⟨present, hpresent, hput⟩ | ⟨hnew, ⟨row, hrow, hid⟩, -⟩ | ⟨-, -, hput⟩ :=
      RelationalStore.putPage_cases (s.records.mapValues .ofRecord) r
    · rw [Assoc.get?_mapValues] at hpresent
      obtain ⟨old, hold, rfl⟩ := Option.map_eq_some_iff.mp hpresent
      have hid : (PageRow.ofRecord old).id = r.id := (h.id_iff hwrites hold).mpr rfl
      rw [hput, hid]
      rfl
    · obtain ⟨e, he, rfl⟩ := Assoc.mem_values_mapValues hrow
      have hkey := (h.id_iff hwrites (h.get?_of_mem he)).mp hid
      rw [Assoc.get?_mapValues, ← hkey, h.get?_of_mem he] at hnew
      cases hnew
    · exact hput
  rw [RelationalStore.putRecord_of_ok rfl hpage]
  rfl

end Record

theorem toTables_putRedirect (s : MemoryStore) (rule : RedirectRule) :
    s.toTables.putRedirect rule = (.ok (), (s.putRedirect rule).toTables) := by
  simp only [toTables, RelationalStore.putRedirect, MemoryStore.putRedirect, Assoc.mapValues_insert]

theorem Holds.write (h : s.Holds writes) {w : Write} (hwrites : Unambiguous (writes ++ [w])) :
    (s.write w).Holds (writes ++ [w]) ∧
      (Store.relational s.toTables).write w = (.ok (), .relational (s.write w).toTables) := by
  cases w with
  | record r =>
    refine ⟨h.putRecord hwrites, ?_⟩
    rw [Store.write, Store.putRecord, h.toTables_putRecord hwrites]
    rfl
  | redirect rule =>
    refine ⟨h.putRedirect rule, ?_⟩
    rw [Store.write, Store.putRedirect, toTables_putRedirect]
    rfl

theorem Holds.after (h : s.Holds writes) {later : List Write}
    (hwrites : Unambiguous (writes ++ later)) :
    (s.after later).Holds (writes ++ later) ∧
      Store.putAll (fun w store => store.write w) later (.relational s.toTables) =
        (.ok (), .relational (s.after later).toTables) := by
  induction later generalizing s writes with
  | nil =>
    rw [List.append_nil]
    exact ⟨h, rfl⟩
  | cons w later ih =>
    rw [List.append_cons] at hwrites ⊢
    obtain ⟨hnext, hwrite⟩ := h.write hwrites.of_append
    obtain ⟨hafter, hrest⟩ := ih hnext hwrites
    refine ⟨hafter, ?_⟩
    rw [Store.putAll, hwrite]
    exact hrest

theorem putAll_write (s : MemoryStore) (writes : List Write) :
    Store.putAll (fun w store => store.write w) writes (.memory s) =
      (.ok (), .memory (s.after writes)) := by
  induction writes generalizing s with
  | nil => rfl
  | cons w writes ih =>
    cases w with
    | record r => exact ih (s.putRecord r)
    | redirect rule => exact ih (s.putRedirect rule)

section Answers

variable (h : s.Holds writes)

include h

theorem Holds.spell : RedirectRow.Spell (s.redirects.mapValues .ofRule) s.redirects where
  nodup := by
    rw [Assoc.keys_mapValues]
    exact h.redirectsSorted.nodup
  spelled source := by
    rw [Assoc.get?_mapValues, Option.map_map]
    cases hrule : s.redirects.get? source with
    | none => rfl
    | some rule =>
      obtain rfl := h.source_eq source rule hrule
      rw [Option.map_some, Option.map_some, Function.comp_apply, RedirectRow.rule_ofRule]

theorem Holds.findRecord_toTables (hwrites : Unambiguous writes) (key : String) (unpublished : Bool) :
    s.toTables.findRecord key unpublished = .ok (s.find (.record key unpublished)) := by
  simp only [RelationalStore.findRecord, toTables, find, Assoc.get?_mapValues]
  cases hr : s.records.get? key with
  | none => rfl
  | some r =>
    obtain rfl := h.indexed.key_eq key r hr
    have hread : PageRow.record r.key (.ofRecord r) = .ok r :=
      PageRow.record_ofRecord (hwrites.plainYear r (h.written r.key r hr)) r.id
    rw [Option.map_some, Option.filter_some, Option.filter_some, PageRow.isVisible_ofRecord]
    cases unpublished || r.published with
    | false => rfl
    | true =>
      rw [if_pos rfl, if_pos rfl]
      dsimp only
      rw [hread]
      rfl

theorem Holds.mem_hierarchy_iff {entry : HierarchyEntry} :
    entry ∈ s.toTables.hierarchy ↔ ∃ r, s.records.get? r.key = some r ∧ r.entry = entry := by
  have hhierarchy :
      s.toTables.hierarchy = s.records.entries.map fun e => (PageRow.ofRecord e.2).entry e.1 :=
    List.map_map
  rw [hhierarchy, List.mem_map]
  constructor
  · rintro ⟨⟨key, r⟩, he, rfl⟩
    have hr := h.get?_of_mem he
    obtain rfl := h.indexed.key_eq key r hr
    exact ⟨r, hr, rfl⟩
  · rintro ⟨r, hr, rfl⟩
    exact ⟨(r.key, r), Assoc.mem_of_lookup hr, rfl⟩

theorem Holds.nodup_hierarchy (hwrites : Unambiguous writes) :
    (s.toTables.hierarchy.map HierarchyEntry.id).Nodup := by
  have hids :
      s.toTables.hierarchy.map HierarchyEntry.id = s.records.entries.map fun e => e.2.id := by
    simp only [RelationalStore.hierarchy, toTables, Assoc.mapValues, List.map_map]
    rfl
  rw [hids]
  refine List.Nodup.map_on (fun e he e' he' hid => ?_) (List.Nodup.of_map _ h.sorted.nodup)
  have hr := h.get?_of_mem he
  have hr' := h.get?_of_mem he'
  have hkey :=
    (hwrites.key_eq_iff e.2 e'.2 (h.written e.1 e.2 hr) (h.written e'.1 e'.2 hr')).mpr hid
  rw [h.indexed.key_eq e.1 e.2 hr, h.indexed.key_eq e'.1 e'.2 hr'] at hkey
  rw [← hkey] at hr'
  exact Prod.ext hkey (Option.some.inj (hr.symm.trans hr'))

theorem Holds.find?_hierarchy (hwrites : Unambiguous writes) (id : RecordId) :
    Hierarchy.find? s.toTables.hierarchy id = Hierarchy.find? s.entries id := by
  rw [h.indexed.find?_entries]
  refine Option.ext fun entry => ?_
  rw [Hierarchy.find?_eq_some_iff (h.nodup_hierarchy hwrites), h.mem_hierarchy_iff,
    Option.map_eq_some_iff, recordOf?]
  constructor
  · rintro ⟨⟨r, hr, rfl⟩, rfl⟩
    refine ⟨r, ?_, rfl⟩
    have hled : s.keyOf.get? r.entry.id = some r.key := h.keyOf_eq r.key r hr
    rw [hled, Option.bind_some, hr]
  · rintro ⟨r, hr, rfl⟩
    obtain ⟨key, hled, hget⟩ := Option.bind_eq_some_iff.mp hr
    obtain rfl := h.indexed.key_eq key r hget
    have hheld := h.indexed.idAt?_eq (id, r.key) (Assoc.mem_of_lookup hled)
    rw [idAt?, hget, Option.map_some, Option.some.injEq] at hheld
    exact ⟨⟨r, hget, rfl⟩, hheld⟩

theorem Holds.find_toTables (hwrites : Unambiguous writes) (q : Query) :
    s.toTables.find q = .ok (s.find q) := by
  have hrows : s.toTables.redirects = some (s.redirects.mapValues .ofRule) := rfl
  cases q with
  | record key unpublished => exact h.findRecord_toTables hwrites key unpublished
  | redirect sources => exact RelationalStore.findRedirect_spell hrows h.spell sources
  | wildcardRedirect source => exact RelationalStore.findWildcardRedirect_spell hrows h.spell source
  | ancestors id => exact congrArg Except.ok (Hierarchy.ancestors_congr (h.find?_hierarchy hwrites) id)

theorem Holds.answer_eq (hwrites : Unambiguous writes) (q : Query) :
    ((Store.memory s).answer q).1 = .ok (s.find q) ∧
      ((Store.relational s.toTables).answer q).1 = .ok (s.find q) := by
  refine ⟨?_, h.find_toTables hwrites q⟩
  rw [Store.answer_memory, h.online, if_neg Bool.false_ne_true]

end Answers

end MemoryStore

namespace RelationalStore

/-- Does a list hold what the recursive query for the ancestors of an id gives: all rows that are
reached, each once, in any order? -/
def ListsAncestors (s : RelationalStore) (id : RecordId) (listed : List HierarchyEntry) : Prop :=
  listed.Nodup ∧ ∀ e, e ∈ listed ↔ Hierarchy.Reached s.hierarchy id e

def answerListing (listed : RecordId → List HierarchyEntry) :
    (q : Query) → RelationalStore → Except StoreError q.Answer × RelationalStore
  | .ancestors id, s => (.ok (listed id), s)
  | .record key unpublished, s => s.answer (.record key unpublished)
  | .redirect sources, s => s.answer (.redirect sources)
  | .wildcardRedirect source, s => s.answer (.wildcardRedirect source)

theorem steady_answerListing (listed : RecordId → List HierarchyEntry) :
    Lookup.Steady (answerListing listed) := by
  intro q r s
  cases q <;> rfl

variable {s : RelationalStore} (hids : (s.hierarchy.map HierarchyEntry.id).Nodup)

include hids

theorem listsAncestors_ancestors (id : RecordId) :
    s.ListsAncestors id (Hierarchy.ancestors s.hierarchy id) :=
  ⟨List.Nodup.of_map _ (Hierarchy.nodup_climb [] (some id)).1, fun _ => Hierarchy.mem_ancestors_iff hids⟩

theorem ListsAncestors.nodup_ids {id : RecordId} {listed : List HierarchyEntry}
    (h : s.ListsAncestors id listed) : (listed.map HierarchyEntry.id).Nodup := by
  refine List.Nodup.map_on (fun e he e' he' hid => ?_) h.1
  exact List.inj_on_of_nodup_map hids ((h.2 e).mp he).mem ((h.2 e').mp he').mem hid

theorem ListsAncestors.trail_eq {id : RecordId} {listed other : List HierarchyEntry}
    (h : s.ListsAncestors id listed) (h' : s.ListsAncestors id other) (current : RecordId) :
    Hierarchy.trail listed current = Hierarchy.trail other current :=
  Hierarchy.trail_eq_of_mem_iff (h.nodup_ids hids) (h'.nodup_ids hids)
    (fun e => (h.2 e).trans (h'.2 e).symm) current

end RelationalStore

namespace Store

/-- After one unambiguous history of writes, which neither refuses, a store in memory and a database
cannot be told apart, in whatever order the database lists ancestors. -/
theorem backends_agree {writes : List Write} (hwrites : Unambiguous writes) (logging : Bool) :
    ∃ (m : MemoryStore) (t : RelationalStore),
      putAll (fun w store => store.write w) writes (.memory { logging }) = (.ok (), .memory m) ∧
      putAll (fun w store => store.write w) writes (.relational .fresh) = (.ok (), .relational t) ∧
      (∀ q, ((memory m).answer q).1 = ((relational t).answer q).1) ∧
      (∀ id, ∃ found, ((memory m).answer (.ancestors id)).1 = .ok found ∧ t.ListsAncestors id found) ∧
      ∀ (engine : Engine) (request : PageRequest),
        engine.respond request (.memory m) = engine.respond request (.relational t) ∧
        ∀ listed, (∀ id, t.ListsAncestors id (listed id)) →
          engine.respond request (.memory m) =
            ((engine.handle request).run (RelationalStore.answerListing listed) t).1 := by
  obtain ⟨hholds, htables⟩ := (MemoryStore.Holds.empty logging).after hwrites
  rw [List.nil_append] at hholds
  generalize hm : MemoryStore.after { logging } writes = m at hholds htables
  have hids := hholds.nodup_hierarchy hwrites
  have hanswer : ∀ q, ((memory m).answer q).1 = ((relational m.toTables).answer q).1 := fun q =>
    (hholds.answer_eq hwrites q).1.trans (hholds.answer_eq hwrites q).2.symm
  have hlists : ∀ id, ∃ found, ((memory m).answer (.ancestors id)).1 = .ok found ∧
      m.toTables.ListsAncestors id found := fun id =>
    ⟨_, hanswer (.ancestors id), RelationalStore.listsAncestors_ancestors hids id⟩
  refine ⟨m, m.toTables, ?_, htables, hanswer, hlists,
    fun engine request => ⟨?_, fun listed hlisted => ?_⟩⟩
  · rw [MemoryStore.putAll_write, hm]
  · exact engine.run_handle_congr steady_answer steady_answer request (fun q _ => hanswer q)
      fun id => by rw [hanswer]
  · refine engine.run_handle_congr steady_answer (RelationalStore.steady_answerListing listed) request ?_ ?_
    · intro q hq
      rw [hanswer]
      cases q with
      | ancestors id => exact absurd rfl (hq id)
      | record key unpublished => rfl
      | redirect sources => rfl
      | wildcardRedirect source => rfl
    · intro id
      obtain ⟨found, hfound, hlists⟩ := hlists id
      rw [hfound]
      exact congrArg Except.ok (hlists.trail_eq hids (hlisted id) id)

end Store

namespace Agreement

open Visibility (breadcrumbs? draft engine guide)

def writes : List Write :=
  [.record guide, .record draft, .redirect ⟨"/old/*", "/guide/", .permanent⟩,
    .record { guide with title := "User guide" }]

def written (store : Store) : Except StoreError Unit × Store :=
  Store.putAll (fun w store => store.write w) writes store

def trailOn (store : Store) : Option (List Breadcrumb) :=
  breadcrumbs? (engine.respond { path := "/guide/" } store)

theorem mem_writes {r : Record} (h : .record r ∈ writes) :
    r = guide ∨ r = draft ∨ r = { guide with title := "User guide" } := by
  simpa [writes] using h

theorem writes_unambiguous : Unambiguous writes where
  key_eq_iff r r' hr hr' := by
    obtain rfl | rfl | rfl :=
      mem_writes hr <;> obtain rfl | rfl | rfl := mem_writes hr' <;> decide +kernel
  plainYear r hr := by
    obtain rfl | rfl | rfl := mem_writes hr <;> exact ⟨by decide +kernel, by decide +kernel⟩

theorem backends_agree_guide :
    Unambiguous writes ∧ (written (.memory {})).1 = .ok () ∧
      (written (.relational .fresh)).1 = .ok () ∧
      (∀ q, ((written (.memory {})).2.answer q).1 = ((written (.relational .fresh)).2.answer q).1) ∧
      trailOn (written (.memory {})).2 = trailOn (written (.relational .fresh)).2 ∧
      trailOn (written (.relational .fresh)).2 =
        some [.link "Draft" "/draft", .link "User guide" "/guide"] := by
  obtain ⟨m, t, hm, ht, hanswer, -, hrespond⟩ := Store.backends_agree writes_unambiguous false
  have hmemory : written (.memory {}) = (.ok (), .memory m) := hm
  have htables : written (.relational .fresh) = (.ok (), .relational t) := ht
  refine ⟨writes_unambiguous, congrArg Prod.fst hmemory, congrArg Prod.fst htables, ?_, ?_,
    by decide +kernel⟩
  · rw [hmemory, htables]
    exact hanswer
  · rw [hmemory, htables]
    exact congrArg breadcrumbs? (hrespond engine { path := "/guide/" }).1

end Agreement

end ContentServer
