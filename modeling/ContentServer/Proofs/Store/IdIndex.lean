import ContentServer.Proofs.Assoc
import ContentServer.Proofs.Hierarchy
import ContentServer.Store.Memory

namespace ContentServer

namespace MemoryStore

variable {s : MemoryStore} {id : RecordId} {key : String}

def idAt? (s : MemoryStore) (key : String) : Option RecordId :=
  (s.records.get? key).map Record.id

def HasDistinctIds (s : MemoryStore) : Prop :=
  (s.records.values.map Record.id).Nodup

instance : Decidable s.HasDistinctIds :=
  inferInstanceAs (Decidable (List.Nodup _))

theorem HasDistinctIds.key_eq (h : s.HasDistinctIds) {other : String} (hkey : s.idAt? key = some id)
    (hother : s.idAt? other = some id) : key = other := by
  obtain ⟨r, hr, hid⟩ := Option.map_eq_some_iff.mp hkey
  obtain ⟨r', hr', hid'⟩ := Option.map_eq_some_iff.mp hother
  rw [HasDistinctIds, Assoc.values, List.map_map] at h
  have hentry := List.inj_on_of_nodup_map h (Assoc.mem_of_lookup hr) (Assoc.mem_of_lookup hr')
    (hid.trans hid'.symm)
  exact congrArg Prod.fst hentry

def putRecords (s : MemoryStore) (records : List Record) : MemoryStore :=
  records.foldl putRecord s

theorem putRecords_append (s : MemoryStore) (before later : List Record) :
    s.putRecords (before ++ later) = (s.putRecords before).putRecords later :=
  List.foldl_append

theorem putRecords_cons (s : MemoryStore) (r : Record) (later : List Record) :
    s.putRecords (r :: later) = (s.putRecord r).putRecords later := rfl

theorem offline_putRecords (s : MemoryStore) (records : List Record) :
    (s.putRecords records).offline = s.offline := by
  induction records generalizing s with
  | nil => rfl
  | cons r records ih => exact ih (s.putRecord r)

section Write

variable (s) (r : Record)

theorem records_putRecord : (s.putRecord r).records = s.records.insert r.key r := rfl

theorem keyOf_putRecord :
    (s.putRecord r).keyOf =
      (match s.idAt? r.key with
      | some previous => s.keyOf.erase previous
      | none => s.keyOf).insert r.id r.key := by
  rw [putRecord, idAt?]
  cases s.records.get? r.key <;> rfl

theorem idAt?_putRecord_self : (s.putRecord r).idAt? r.key = some r.id := by
  rw [idAt?, records_putRecord, Assoc.get?_insert_self, Option.map_some]

theorem idAt?_putRecord_of_ne {key : String} (h : key ≠ r.key) :
    (s.putRecord r).idAt? key = s.idAt? key := by
  rw [idAt?, records_putRecord, Assoc.get?_insert_of_ne _ h, idAt?]

theorem keyOf_putRecord_self : (s.putRecord r).keyOf.get? r.id = some r.key := by
  rw [keyOf_putRecord, Assoc.get?_insert_self]

/-- A write under another id takes `id` out of the index if it replaces a record of that id,
whatever key the index leads it to. -/
theorem keyOf_putRecord_of_ne {id : RecordId} (h : id ≠ r.id) :
    (s.putRecord r).keyOf.get? id = if s.idAt? r.key = some id then none else s.keyOf.get? id := by
  rw [keyOf_putRecord, Assoc.get?_insert_of_ne _ h]
  cases hprevious : s.idAt? r.key with
  | none => exact (if_neg (by simp)).symm
  | some previous =>
    by_cases hid : previous = id
    · subst hid
      rw [if_pos rfl]
      exact Assoc.get?_erase_self _ _
    · rw [if_neg (by simpa using hid)]
      exact Assoc.get?_erase_of_ne _ (Ne.symm hid)

end Write

/-- What every history of writes keeps: records stand under their own keys, and all that the index
holds leads to a record of the id it is held under. -/
structure Indexed (s : MemoryStore) : Prop where
  key_eq : ∀ key r, s.records.get? key = some r → r.key = key
  idAt?_eq : ∀ e ∈ s.keyOf.entries, s.idAt? e.2 = some e.1

theorem Indexed.of_empty (hrecords : s.records = ∅) (hkeyOf : s.keyOf = ∅) : s.Indexed := by
  constructor
  · intro key r hr
    rw [hrecords, Assoc.get?_empty] at hr
    cases hr
  · intro e he
    rw [hkeyOf] at he
    cases he

theorem Indexed.putRecord (h : s.Indexed) (r : Record) : (s.putRecord r).Indexed := by
  constructor
  · intro key found hfound
    obtain ⟨rfl, rfl⟩ | ⟨-, hfound⟩ := Assoc.get?_insert_eq_some_iff.mp hfound
    · rfl
    · exact h.key_eq key found hfound
  · intro e he
    rw [keyOf_putRecord] at he
    obtain rfl | he := Assoc.mem_put he
    · exact idAt?_putRecord_self s r
    · -- an entry that leads to the key just written would have been erased before
      cases hprevious : s.idAt? r.key with
      | none =>
        rw [hprevious] at he
        have hled := h.idAt?_eq e he
        have hkey : e.2 ≠ r.key := fun hkey => by rw [hkey, hprevious] at hled; cases hled
        rw [idAt?_putRecord_of_ne s r hkey, hled]
      | some previous =>
        rw [hprevious] at he
        obtain ⟨he, hne⟩ := List.mem_filter.mp he
        have hled := h.idAt?_eq e he
        have hkey : e.2 ≠ r.key := fun hkey => by
          rw [hkey, hprevious, Option.some.injEq] at hled
          exact of_decide_eq_true hne hled.symm
        rw [idAt?_putRecord_of_ne s r hkey, hled]

theorem Indexed.putRecords (h : s.Indexed) (records : List Record) :
    (s.putRecords records).Indexed := by
  induction records generalizing s with
  | nil => exact h
  | cons r records ih => exact ih (h.putRecord r)

def recordOf? (s : MemoryStore) (id : RecordId) : Option Record :=
  (s.keyOf.get? id).bind s.records.get?

theorem Indexed.find?_entries (h : s.Indexed) (id : RecordId) :
    Hierarchy.find? s.entries id = (s.recordOf? id).map Record.entry := by
  rw [entries, recordOf?, Assoc.get?]
  have hled := h.idAt?_eq
  generalize s.keyOf.entries = l at hled
  induction l with
  | nil => rfl
  | cons e l ih =>
    obtain ⟨i, key⟩ := e
    obtain ⟨r, hr, hr'⟩ := Option.map_eq_some_iff.mp (hled (i, key) List.mem_cons_self)
    have hid : r.entry.id = i := hr'
    have hentry : (s.records.get? key).map Record.entry = some r.entry := by
      rw [hr, Option.map_some]
    simp only [List.filterMap_cons, hentry]
    rw [Hierarchy.find?_cons]
    by_cases hne : id = i
    · rw [hne, List.lookup_cons_self, if_pos hid, Option.bind_some, hentry]
    · rw [Assoc.lookup_cons_of_ne hne, if_neg fun hr => hne (hr.symm.trans hid)]
      exact ih fun e he => hled e (List.mem_cons_of_mem _ he)

theorem Indexed.head?_ancestors (h : s.Indexed) (id : RecordId) :
    (s.find (.ancestors id)).head? = (s.recordOf? id).map Record.entry := by
  rw [find, Hierarchy.head?_ancestors, h.find?_entries]

section Later

variable {later : List Record} (hid : ∀ w ∈ later, w.id ≠ id)

include hid

/-- The keys that hold an id which is not written any more are those that held it and are not
written any more either. -/
theorem idAt?_putRecords_eq_some_iff :
    (s.putRecords later).idAt? key = some id ↔
      s.idAt? key = some id ∧ ∀ w ∈ later, w.key ≠ key := by
  induction later generalizing s with
  | nil => simp [putRecords]
  | cons w later ih =>
    rw [List.forall_mem_cons] at hid
    rw [putRecords_cons, ih hid.2, List.forall_mem_cons]
    by_cases hkey : w.key = key
    · subst hkey
      simp [idAt?_putRecord_self, hid.1]
    · simp [idAt?_putRecord_of_ne s w (Ne.symm hkey), hkey]

/-- The index keeps what it holds for an id which is not written any more, until a record of that id
is replaced. -/
theorem keyOf_putRecords_eq_some_iff :
    (s.putRecords later).keyOf.get? id = some key ↔
      s.keyOf.get? id = some key ∧ ∀ w ∈ later, s.idAt? w.key ≠ some id := by
  induction later generalizing s with
  | nil => simp [putRecords]
  | cons w later ih =>
    rw [List.forall_mem_cons] at hid
    rw [putRecords_cons, ih hid.2, List.forall_mem_cons, keyOf_putRecord_of_ne s w (Ne.symm hid.1)]
    by_cases hreplaced : s.idAt? w.key = some id
    · simp [hreplaced]
    · have hlater :
          ∀ v ∈ later, (s.putRecord w).idAt? v.key ≠ some id ↔ s.idAt? v.key ≠ some id := by
        intro v _
        by_cases hkey : v.key = w.key
        · rw [hkey, idAt?_putRecord_self]
          simp [hid.1, hreplaced]
        · rw [idAt?_putRecord_of_ne s w hkey]
      rw [if_neg hreplaced, forall₂_congr hlater]
      simp [hreplaced]

end Later

theorem exists_last_write {writes : List Record} (h : ∃ w ∈ writes, w.id = id) :
    ∃ before w later, writes = before ++ w :: later ∧ w.id = id ∧ ∀ v ∈ later, v.id ≠ id := by
  induction writes with
  | nil => simp at h
  | cons first writes ih =>
    by_cases hlater : ∃ w ∈ writes, w.id = id
    · obtain ⟨before, w, later, rfl, hw, hv⟩ := ih hlater
      exact ⟨first :: before, w, later, rfl, hw, hv⟩
    · obtain ⟨w, hmem, hw⟩ := h
      obtain rfl | hmem := List.mem_cons.mp hmem
      · exact ⟨[], w, writes, rfl, hw, fun v hv hid => hlater ⟨v, hv, hid⟩⟩
      · exact absurd ⟨w, hmem, hw⟩ hlater

theorem get?_putRecords_of_key {later : List Record} (hkey : ∀ w ∈ later, w.key ≠ key) :
    (s.putRecords later).records.get? key = s.records.get? key := by
  induction later generalizing s with
  | nil => rfl
  | cons w later ih =>
    rw [List.forall_mem_cons] at hkey
    rw [putRecords_cons, ih hkey.2, records_putRecord, Assoc.get?_insert_of_ne _ (Ne.symm hkey.1)]

theorem Indexed.find_ancestors_eq_cons_iff (h : s.Indexed) {r : Record}
    (hstored : s.records.get? key = some r) :
    (∃ above, s.find (.ancestors r.id) = r.entry :: above) ↔ s.keyOf.get? r.id = some key := by
  rw [← List.head?_eq_some_iff, h.head?_ancestors, recordOf?]
  constructor
  · intro hentry
    obtain ⟨found, hfound, hsame⟩ := Option.map_eq_some_iff.mp hentry
    obtain ⟨led, hled, hget⟩ := Option.bind_eq_some_iff.mp hfound
    have hkey : led = key :=
      calc led = found.key := (h.key_eq led found hget).symm
        _ = r.key := congrArg HierarchyEntry.key hsame
        _ = key := h.key_eq key r hstored
    rw [hled, hkey]
  · intro hled
    rw [hled, Option.bind_some, hstored, Option.map_some]

section History

variable (hrecords : s.records = ∅) {writes : List Record}

include hrecords

theorem exists_write_of_idAt? (hstored : (s.putRecords writes).idAt? key = some id) :
    ∃ w ∈ writes, w.id = id := by
  by_contra hnone
  have hid : ∀ w ∈ writes, w.id ≠ id := fun w hw h => hnone ⟨w, hw, h⟩
  have hbefore := ((idAt?_putRecords_eq_some_iff hid).mp hstored).1
  rw [idAt?, hrecords, Assoc.get?_empty] at hbefore
  cases hbefore

/-- Where ids are distinct, the index leads the id of a record to its key if and only if the record
was the last one written under this id, and no other key held the id then. -/
theorem keyOf_eq_some_iff (hdistinct : (s.putRecords writes).HasDistinctIds) {r : Record}
    (hstored : (s.putRecords writes).records.get? r.key = some r) :
    (s.putRecords writes).keyOf.get? r.id = some r.key ↔
      ∃ before later, writes = before ++ r :: later ∧ (∀ w ∈ later, w.id ≠ r.id) ∧
        ∀ other, other ≠ r.key → (s.putRecords before).idAt? other ≠ some r.id := by
  have hheld : (s.putRecords writes).idAt? r.key = some r.id := by
    rw [idAt?, hstored, Option.map_some]
  constructor
  · intro hled
    obtain ⟨before, w, later, rfl, hw, hlater⟩ :=
      exists_last_write (exists_write_of_idAt? hrecords hheld)
    rw [putRecords_append, putRecords_cons] at hled hstored hdistinct hheld
    obtain ⟨hnow, hkept⟩ := (keyOf_putRecords_eq_some_iff hlater).mp hled
    have hkey : w.key = r.key := by
      rw [← hw, keyOf_putRecord_self] at hnow
      exact Option.some.inj hnow
    -- the key is not written any more, so what it holds is what was written there
    have hlast := ((idAt?_putRecords_eq_some_iff hlater).mp hheld).2
    have hsame : w = r := by
      rw [get?_putRecords_of_key hlast, records_putRecord, ← hkey,
        Assoc.get?_insert_self] at hstored
      exact Option.some.inj hstored
    subst hsame
    refine ⟨before, later, rfl, hlater, fun other hother hholds => hother ?_⟩
    have hstill : ((s.putRecords before).putRecord w).idAt? other = some w.id := by
      rw [idAt?_putRecord_of_ne _ w hother, hholds]
    have hend := (idAt?_putRecords_eq_some_iff hlater).mpr
      ⟨hstill, fun v hv hvkey => hkept v hv (hvkey ▸ hstill)⟩
    exact hdistinct.key_eq hend hheld
  · rintro ⟨before, later, rfl, hlater, hsole⟩
    rw [putRecords_append, putRecords_cons] at hheld ⊢
    have hlast := ((idAt?_putRecords_eq_some_iff hlater).mp hheld).2
    refine (keyOf_putRecords_eq_some_iff hlater).mpr ⟨keyOf_putRecord_self _ r,
      fun w hw hholds => ?_⟩
    rw [idAt?_putRecord_of_ne _ r (hlast w hw)] at hholds
    exact hsole w.key (hlast w hw) hholds

/-- After a history of writes to an online store that leaves records of distinct ids, a stored
record is found through its id if and only if it was the last one written under this id, and no
other key held the id then. -/
theorem ancestors_eq_cons_iff (hkeyOf : s.keyOf = ∅) (honline : s.offline = false)
    (hdistinct : (s.putRecords writes).HasDistinctIds) {r : Record}
    (hstored : (s.putRecords writes).records.get? key = some r) :
    (∃ above, ((s.putRecords writes).answer (.ancestors r.id)).1 = .ok (r.entry :: above)) ↔
      ∃ before later, writes = before ++ r :: later ∧ (∀ w ∈ later, w.id ≠ r.id) ∧
        ∀ other, other ≠ key → (s.putRecords before).idAt? other ≠ some r.id := by
  have hindexed := (Indexed.of_empty hrecords hkeyOf).putRecords writes
  obtain rfl := hindexed.key_eq key r hstored
  have hanswer : ((s.putRecords writes).answer (.ancestors r.id)).1 =
      .ok ((s.putRecords writes).find (.ancestors r.id)) := by
    rw [answer, offline_putRecords, honline]
    rfl
  rw [← keyOf_eq_some_iff hrecords hdistinct hstored, ← hindexed.find_ancestors_eq_cons_iff hstored,
    hanswer]
  simp only [Except.ok.injEq]

end History

end MemoryStore

namespace IdIndex

def noon : Instant :=
  (Instant.ofFields? ⟨2024, 7, 1, by decide⟩ 12 0 0 0).get (by decide)

def news : Record where
  id := 1
  key := "/news"
  parent := none
  title := "News"
  content := ""
  canonical := .requireSlash
  published := true
  author := none
  lastModified := noon

def moved : Record :=
  { news with key := "/archive" }

def next : Record :=
  { news with id := 2, title := "Next news" }

def fresh : MemoryStore := {}

theorem ancestors_next :
    (fresh.putRecords [news, next]).HasDistinctIds ∧
      (fresh.putRecords [news, next]).records.get? "/news" = some next ∧
      ((fresh.putRecords [news, next]).answer (.ancestors 2)).1 = .ok [next.entry] ∧
      ((∃ above, ((fresh.putRecords [news, next]).answer (.ancestors next.id)).1 =
          .ok (next.entry :: above)) ↔
        ∃ before later, [news, next] = before ++ next :: later ∧ (∀ w ∈ later, w.id ≠ next.id) ∧
          ∀ other, other ≠ "/news" → (fresh.putRecords before).idAt? other ≠ some next.id) := by
  have hdistinct : (fresh.putRecords [news, next]).HasDistinctIds := by decide +kernel
  have hstored : (fresh.putRecords [news, next]).records.get? "/news" = some next := by
    decide +kernel
  exact ⟨hdistinct, hstored, by decide +kernel,
    MemoryStore.ancestors_eq_cons_iff rfl rfl rfl hdistinct hstored⟩

/-- A page that was moved is not found through its id once its first key has gone to a new page. -/
theorem ancestors_moved :
    (fresh.putRecords [news, moved, next]).HasDistinctIds ∧
      (fresh.putRecords [news, moved, next]).records.get? "/archive" = some moved ∧
      ((fresh.putRecords [news, moved, next]).answer (.ancestors moved.id)).1 = .ok [] := by
  decide +kernel

end IdIndex

end ContentServer
