import ContentServer.Proofs.Store.Collision

namespace ContentServer

namespace RelationalStore

variable {s t : RelationalStore} {r : Record} {records : List Record} {u : Store}

def rowOf (s : RelationalStore) (r : Record) : String × PageRow :=
  (r.key, { PageRow.ofRecord r with id := s.idFor r })

def insertPages (s : RelationalStore) (rows : List (String × PageRow)) : RelationalStore :=
  { s with pages := s.pages.map (·.insertAll rows) }

def insertRedirects (s : RelationalStore) (rows : List (String × RedirectRow)) : RelationalStore :=
  { s with redirects := s.redirects.map (·.insertAll rows) }

@[simp] theorem insertPages_nil (s : RelationalStore) : s.insertPages [] = s := by
  obtain ⟨version, pages, redirects⟩ := s
  cases pages <;> rfl

theorem insertPages_cons (s : RelationalStore) (row : String × PageRow)
    (rows : List (String × PageRow)) :
    s.insertPages (row :: rows) = (s.insertPages [row]).insertPages rows := by
  simp [insertPages, Function.comp_def, Assoc.insertAll]

theorem insertPages_insertPages (s : RelationalStore) (rows : List (String × PageRow)) :
    (s.insertPages rows).insertPages rows = s.insertPages rows := by
  simp [insertPages, Function.comp_def, Assoc.insertAll_insertAll (List.Subset.refl _)]

@[simp] theorem insertRedirects_nil (s : RelationalStore) : s.insertRedirects [] = s := by
  obtain ⟨version, pages, redirects⟩ := s
  cases redirects <;> rfl

theorem insertRedirects_cons (s : RelationalStore) (row : String × RedirectRow)
    (rows : List (String × RedirectRow)) :
    s.insertRedirects (row :: rows) = (s.insertRedirects [row]).insertRedirects rows := by
  simp [insertRedirects, Function.comp_def, Assoc.insertAll]

theorem insertRedirects_insertRedirects (s : RelationalStore) (rows : List (String × RedirectRow)) :
    (s.insertRedirects rows).insertRedirects rows = s.insertRedirects rows := by
  simp [insertRedirects, Function.comp_def, Assoc.insertAll_insertAll (List.Subset.refl _)]

def Knows (s : RelationalStore) (records : List Record) : Prop :=
  ∀ r ∈ records, (s.idOf? r.key).isSome

theorem rowOf_congr (h : s.idOf? r.key = t.idOf? r.key) : s.rowOf r = t.rowOf r := by
  rw [rowOf, rowOf, idFor, idFor, h]

theorem idOf?_putRecord_self (h : s.putRecord r = (.ok (), t)) :
    t.idOf? r.key = some (s.idFor r) := by
  obtain ⟨pages, -, rfl⟩ := putRecord_eq_ok h
  simp [idOf?]

theorem eq_insertPages_of_putRecord (h : s.putRecord r = (.ok (), t)) :
    t = s.insertPages [s.rowOf r] := by
  obtain ⟨pages, hpages, rfl⟩ := putRecord_eq_ok h
  simp [insertPages, hpages, Assoc.insertAll, rowOf]

theorem putRecord_of_isSome (h : (s.idOf? r.key).isSome) :
    s.putRecord r = (.ok (), s.insertPages [s.rowOf r]) := by
  cases hput : s.putRecord r with
  | mk result t =>
    cases result with
    | ok _ => rw [← eq_insertPages_of_putRecord hput]
    | error e =>
      obtain ⟨id, hid⟩ := Option.isSome_iff_exists.mp h
      obtain ⟨present, hpresent, -⟩ := Option.map_eq_some_iff.mp hid
      obtain ⟨pages, hpages, hget⟩ := Option.bind_eq_some_iff.mp hpresent
      have hnew := ((putRecord_eq_error_iff hpages).mp (congrArg Prod.fst hput)).2.1
      rw [hget] at hnew
      cases hnew

/-- Every row that an import writes has the id that its key has in the end. -/
theorem putRecords_eq_ok (h : Store.putAll Store.putRecord records (.relational s) = (.ok (), u)) :
    ∃ t, u = .relational t ∧ (∀ key id, s.idOf? key = some id → t.idOf? key = some id) ∧
      t.Knows records ∧ t = s.insertPages (records.map t.rowOf) := by
  induction records generalizing s with
  | nil => exact ⟨s, (Prod.mk.inj h).2.symm, fun _ _ hid => hid, by simp [Knows], by simp⟩
  | cons r records ih =>
    cases hput : s.putRecord r with
    | mk result next =>
      cases result with
      | error e =>
        rw [Store.putAll, Store.putRecord, hput] at h
        cases h
      | ok _ =>
        rw [Store.putAll, Store.putRecord, hput] at h
        obtain ⟨t, rfl, hkept, hknows, ht⟩ := ih h
        have hself := idOf?_putRecord_self hput
        have hrow : t.rowOf r = s.rowOf r := by
          rw [rowOf, rowOf, idFor, hkept _ _ hself, Option.getD_some]
        refine ⟨t, rfl, fun key id hid => hkept key id ?_, List.forall_mem_cons.mpr ⟨?_, hknows⟩,
          ?_⟩
        · have hnext := idOf?_putRecord hid r
          rwa [hput] at hnext
        · rw [hkept _ _ hself, Option.isSome_some]
        · rw [List.map_cons, insertPages_cons, hrow, ← eq_insertPages_of_putRecord hput]
          exact ht

theorem putRecords_of_knows (h : s.Knows records) :
    Store.putAll Store.putRecord records (.relational s) =
      (.ok (), .relational (s.insertPages (records.map s.rowOf))) := by
  induction records generalizing s with
  | nil => simp [Store.putAll]
  | cons r records ih =>
    obtain ⟨hr, hrecords⟩ := List.forall_mem_cons.mp h
    have hput := putRecord_of_isSome hr
    have hkept : ∀ r' ∈ records, (s.insertPages [s.rowOf r]).idOf? r'.key = s.idOf? r'.key := by
      intro r' hr'
      obtain ⟨id, hid⟩ := Option.isSome_iff_exists.mp (hrecords r' hr')
      have hnext := idOf?_putRecord hid r
      rw [hput] at hnext
      exact hnext.trans hid.symm
    have hknows : (s.insertPages [s.rowOf r]).Knows records := by
      intro r' hr'
      rw [hkept r' hr']
      exact hrecords r' hr'
    have hrows : records.map (s.insertPages [s.rowOf r]).rowOf = records.map s.rowOf :=
      List.map_congr_left fun r' hr' => rowOf_congr (hkept r' hr')
    rw [List.map_cons, insertPages_cons, Store.putAll, Store.putRecord, hput, ← hrows]
    exact ih hknows

def rowsOf (rules : List RedirectRule) : List (String × RedirectRow) :=
  rules.map fun rule => (rule.source, .ofRule rule)

theorem putRedirects_eq_ok_iff {rules : List RedirectRule} :
    Store.putAll Store.putRedirect rules (.relational s) = (.ok (), u) ↔
      (s.redirects = none → rules = []) ∧ u = .relational (s.insertRedirects (rowsOf rules)) := by
  induction rules generalizing s with
  | nil => simp [Store.putAll, rowsOf, eq_comm]
  | cons rule rules ih =>
    cases hrows : s.redirects with
    | none => simp [Store.putAll, Store.putRedirect, putRedirect, hrows]
    | some rows =>
      have hput :
          s.putRedirect rule = (.ok (), s.insertRedirects [(rule.source, .ofRule rule)]) := by
        simp [putRedirect, hrows, insertRedirects, Assoc.insertAll]
      have hthere : (s.insertRedirects [(rule.source, .ofRule rule)]).redirects ≠ none := by
        simp [insertRedirects, hrows]
      rw [rowsOf, List.map_cons, insertRedirects_cons, Store.putAll, Store.putRedirect, hput]
      refine ih.trans (and_congr_left fun _ => ?_)
      simp [hthere]

end RelationalStore

namespace Seed

variable {seed : Seed} {counts : SeedCounts} {u : Store}

theorem apply_eq_ok_iff {s : Store} :
    seed.apply s = (.ok counts, u) ↔
      ∃ t, Store.putAll Store.putRecord seed.records s = (.ok (), t) ∧
        Store.putAll Store.putRedirect seed.redirects t = (.ok (), u) ∧
        counts = ⟨seed.records.length, seed.redirects.length⟩ := by
  unfold apply
  rcases Store.putAll Store.putRecord seed.records s with ⟨_ | _, t⟩
  · simp
  · rcases hrules : Store.putAll Store.putRedirect seed.redirects t with ⟨_ | _, v⟩
    · simp [hrules]
    · simp [hrules, eq_comm, and_comm]

/-- A seed that could be imported can be imported again. It tells the same counts, and the store
stays as it is, so that all queries are answered as before. -/
theorem apply_again {s : RelationalStore} (h : seed.apply (.relational s) = (.ok counts, u)) :
    seed.apply u = (.ok counts, u) ∧ ∀ q, ((seed.apply u).2.answer q).1 = (u.answer q).1 := by
  obtain ⟨_, hrecords, hrules, rfl⟩ := apply_eq_ok_iff.mp h
  obtain ⟨t, rfl, -, hknows, ht⟩ := RelationalStore.putRecords_eq_ok hrecords
  obtain ⟨hthere, rfl⟩ := RelationalStore.putRedirects_eq_ok_iff.mp hrules
  have hpages : t.insertPages (seed.records.map t.rowOf) = t := by
    generalize seed.records.map t.rowOf = rows at ht ⊢
    rw [ht, RelationalStore.insertPages_insertPages]
  generalize hrows : RelationalStore.rowsOf seed.redirects = rows
  -- the rules change no page, so the keys and ids are those that the records left
  have hpages' :
      (t.insertRedirects rows).insertPages (seed.records.map (t.insertRedirects rows).rowOf) =
      t.insertRedirects rows := congrArg (·.insertRedirects rows) hpages
  have hknows' : (t.insertRedirects rows).Knows seed.records := hknows
  have hagain : seed.apply (.relational (t.insertRedirects rows)) =
      (.ok ⟨seed.records.length, seed.redirects.length⟩, .relational (t.insertRedirects rows)) := by
    refine apply_eq_ok_iff.mpr ⟨.relational (t.insertRedirects rows), ?_, ?_, rfl⟩
    · rw [RelationalStore.putRecords_of_knows hknows', hpages']
    · refine RelationalStore.putRedirects_eq_ok_iff.mpr ⟨fun hnone => hthere ?_, ?_⟩
      · simpa [RelationalStore.insertRedirects] using hnone
      · rw [hrows, RelationalStore.insertRedirects_insertRedirects]
  exact ⟨hagain, fun q => by rw [hagain]⟩

end Seed

namespace Reimport

open Collision (borrowed)
open ReadBack (fresh news renumbered)

def seed : Seed where
  records := [renumbered, news, borrowed]
  redirects := [⟨"/old", "/news", .permanent⟩, ⟨"/old", "/late", .permanent⟩]

theorem apply_again_shared :
    (seed.apply fresh).1 = .ok ⟨3, 2⟩ ∧
      seed.apply (seed.apply fresh).2 = (.ok ⟨3, 2⟩, (seed.apply fresh).2) ∧
      ∀ q, ((seed.apply (seed.apply fresh).2).2.answer q).1 =
        ((seed.apply fresh).2.answer q).1 := by
  have hfirst : (seed.apply fresh).1 = .ok ⟨3, 2⟩ := rfl
  exact ⟨hfirst, Seed.apply_again (Prod.ext hfirst rfl)⟩

end Reimport

end ContentServer
