import ContentServer.Proofs.Lookup
import ContentServer.Proofs.Time.RoundTrip
import ContentServer.Store.Basic

namespace ContentServer

theorem CanonicalPolicy.ofName?_ofRecord (r : Record) :
    CanonicalPolicy.ofName? (PageRow.ofRecord r).canonical = some r.canonical :=
  CanonicalPolicy.ofName?_name r.canonical

namespace PageRow

theorem published_ofRecord (r : Record) : decide ((ofRecord r).published ≠ 0) = r.published := by
  cases hp : r.published <;> simp [ofRecord, hp]

theorem record_ofRecord {r : Record} (h : r.lastModified.date.HasPlainYear) (id : RecordId) :
    PageRow.record r.key { ofRecord r with id := id } = .ok { r with id := id } := by
  have hread : Time.Strict.instant (ofRecord r).lastModified.toList = .ok r.lastModified :=
    Time.Strict.instant_offsetText h
  simp only [record, CanonicalPolicy.ofName?_ofRecord, hread, published_ofRecord]
  rfl

theorem record_ofRecord_error {r : Record} (h : ¬r.lastModified.date.HasPlainYear) (id : RecordId) :
    PageRow.record r.key { ofRecord r with id := id } =
      .error (.malformed .record r.key ("bad last_modified: " ++ Time.Fault.invalid.message)) := by
  have hread : Time.Strict.instant (ofRecord r).lastModified.toList = .error .invalid :=
    Time.Strict.instant_offsetText_error h
  simp only [record, CanonicalPolicy.ofName?_ofRecord, hread]

end PageRow

namespace RelationalStore

variable {s t : RelationalStore} {pages : Assoc String PageRow} {r : Record}

def idOf? (s : RelationalStore) (key : String) : Option RecordId :=
  (s.pages.bind (·.get? key)).map PageRow.id

/-- The id that a page gets when it is written: that of the page it replaces, or else its own. -/
def idFor (s : RelationalStore) (r : Record) : RecordId :=
  (s.idOf? r.key).getD r.id

/-- A page is written over the one under its key, refused for its id, or added. -/
theorem putPage_cases (pages : Assoc String PageRow) (r : Record) :
    (∃ present, pages.get? r.key = some present ∧
        putPage pages r = .ok (pages.insert r.key { PageRow.ofRecord r with id := present.id })) ∨
      (pages.get? r.key = none ∧ (∃ row ∈ pages.values, row.id = r.id) ∧
        putPage pages r = .error (.duplicateKey .record (toString r.id))) ∨
      (pages.get? r.key = none ∧ (∀ row ∈ pages.values, row.id ≠ r.id) ∧
        putPage pages r = .ok (pages.insert r.key (.ofRecord r))) := by
  cases hkey : pages.get? r.key with
  | some present => exact .inl ⟨present, rfl, by simp only [putPage, hkey]⟩
  | none =>
    by_cases hid : ∃ row ∈ pages.values, row.id = r.id
    · refine .inr (.inl ⟨rfl, hid, ?_⟩)
      simp only [putPage, hkey]
      exact if_pos (by simpa using hid)
    · refine .inr (.inr ⟨rfl, by simpa using hid, ?_⟩)
      simp only [putPage, hkey]
      exact if_neg (by simpa using hid)

theorem putRecord_of_ok {pages' : Assoc String PageRow} (hpages : s.pages = some pages)
    (h : putPage pages r = .ok pages') :
    s.putRecord r = (.ok (), { s with pages := some pages' }) := by
  simp only [putRecord, hpages, h]

theorem putRecord_of_error {e : StoreError} (hpages : s.pages = some pages)
    (h : putPage pages r = .error e) : s.putRecord r = (.error e, s) := by
  simp only [putRecord, hpages, h]

theorem putRecord_eq_ok (h : s.putRecord r = (.ok (), t)) :
    ∃ pages, s.pages = some pages ∧
      t = { s with pages := some (pages.insert r.key { PageRow.ofRecord r with id := s.idFor r }) } := by
  cases hpages : s.pages with
  | none => simp [putRecord, hpages] at h
  | some pages =>
    refine ⟨pages, rfl, ?_⟩
    obtain ⟨present, hpresent, hput⟩ | ⟨-, -, hput⟩ | ⟨hnew, -, hput⟩ := putPage_cases pages r
    · have hid : s.idFor r = present.id := by simp [idFor, idOf?, hpages, hpresent]
      rw [putRecord_of_ok hpages hput] at h
      rw [hid]
      exact (Prod.mk.inj h).2.symm
    · rw [putRecord_of_error hpages hput] at h
      cases h
    · have hid : s.idFor r = r.id := by simp [idFor, idOf?, hpages, hnew]
      rw [putRecord_of_ok hpages hput] at h
      rw [hid]
      exact (Prod.mk.inj h).2.symm

theorem putRecord_eq_error {e : StoreError} (h : s.putRecord r = (.error e, t)) : t = s := by
  unfold putRecord at h
  split at h
  · exact (Prod.mk.inj h).2.symm
  · split at h
    · exact absurd (Prod.mk.inj h).1 (by simp)
    · exact (Prod.mk.inj h).2.symm

theorem idOf?_putRecord {key : String} {id : RecordId} (h : s.idOf? key = some id) (r : Record) :
    (s.putRecord r).2.idOf? key = some id := by
  cases hput : s.putRecord r with
  | mk result t =>
    cases result with
    | error e =>
      rw [putRecord_eq_error hput]
      exact h
    | ok _ =>
      obtain ⟨pages, hpages, rfl⟩ := putRecord_eq_ok hput
      by_cases hkey : key = r.key
      · subst hkey
        have hid : s.idFor r = id := by rw [idFor, h, Option.getD_some]
        simp [idOf?, hid]
      · simp only [idOf?, hpages, Option.bind_some, Assoc.get?_insert_of_ne _ hkey] at h ⊢
        exact h

theorem findRecord_putRecord (h : s.putRecord r = (.ok (), t)) :
    t.findRecord r.key true =
      (PageRow.record r.key { PageRow.ofRecord r with id := s.idFor r }).map some := by
  obtain ⟨pages, -, rfl⟩ := putRecord_eq_ok h
  simp only [findRecord, Assoc.get?_insert_self, Option.filter_some, PageRow.isVisible,
    Bool.true_or, if_true]

theorem findRecord_putRecord_of_ne (h : s.putRecord r = (.ok (), t)) {key : String}
    (hkey : key ≠ r.key) (unpublished : Bool) :
    t.findRecord key unpublished = s.findRecord key unpublished := by
  obtain ⟨pages, hpages, rfl⟩ := putRecord_eq_ok h
  simp only [findRecord, hpages, Assoc.get?_insert_of_ne _ hkey]

def Keeps (s : RelationalStore) (r : Record) : Prop :=
  s.idFor r = r.id ∧ r.lastModified.date.HasPlainYear

theorem findRecord_putRecord_iff (h : s.putRecord r = (.ok (), t)) :
    t.findRecord r.key true = .ok (some r) ↔ s.Keeps r := by
  rw [findRecord_putRecord h]
  by_cases hyear : r.lastModified.date.HasPlainYear
  · rw [PageRow.record_ofRecord hyear]
    constructor
    · intro hread
      have hid := congrArg Record.id (Option.some.inj (Except.ok.inj hread))
      exact ⟨hid, hyear⟩
    · rintro ⟨hid, -⟩
      rw [hid]
      rfl
  · rw [PageRow.record_ofRecord_error hyear]
    constructor
    · intro hread
      cases hread
    · intro hkeeps
      exact absurd hkeeps.2 hyear

end RelationalStore

namespace MemoryStore

theorem find_putRecord (s : MemoryStore) (r : Record) :
    (s.putRecord r).find (.record r.key true) = some r := by
  simp only [find, putRecord, Assoc.get?_insert_self, Option.filter_some, Bool.true_or, if_true]

theorem find_putRecord_of_ne (s : MemoryStore) {r : Record} {key : String} (hkey : key ≠ r.key)
    (unpublished : Bool) :
    (s.putRecord r).find (.record key unpublished) = s.find (.record key unpublished) := by
  simp only [find, putRecord, Assoc.get?_insert_of_ne _ hkey]

end MemoryStore

inductive Write where
  | record (record : Record)
  | redirect (rule : RedirectRule)

namespace Store

def write (s : Store) : Write → Except StoreError Unit × Store
  | .record record => s.putRecord record
  | .redirect rule => s.putRedirect rule

/-- The store after a history of writes, some of which may fail. -/
def after (s : Store) (writes : List Write) : Store :=
  writes.foldl (fun s write => (s.write write).2) s

/-- Will the store read the record back as it is, once it has written it? -/
def Keeps (s : Store) (r : Record) : Prop :=
  match s with
  | memory store => store.offline = false
  | relational store => store.Keeps r

/-- The record that a write stored is what is read next if and only if the store keeps it as it is,
and what is read under other keys stays the same. -/
theorem readBack_iff {s t : Store} (writes : List Write) {r : Record}
    (hput : (s.after writes).putRecord r = (.ok (), t)) :
    ((t.answer (.record r.key true)).1 = .ok (some r) ↔ (s.after writes).Keeps r) ∧
      ∀ key unpublished, key ≠ r.key →
        (t.answer (.record key unpublished)).1 =
          ((s.after writes).answer (.record key unpublished)).1 := by
  generalize s.after writes = u at hput
  cases u with
  | memory store =>
    obtain ⟨-, rfl⟩ := Prod.mk.inj hput
    have hoffline : (store.putRecord r).offline = store.offline := rfl
    refine ⟨?_, ?_⟩
    · rw [answer_memory, hoffline, store.find_putRecord]
      cases hstore : store.offline with
      | false => exact iff_of_true rfl hstore
      | true =>
        refine iff_of_false (fun hread => by cases hread) fun hkeeps => ?_
        rw [Keeps, hstore] at hkeeps
        cases hkeeps
    · intro key unpublished hkey
      rw [answer_memory, answer_memory, hoffline, store.find_putRecord_of_ne hkey]
  | relational store =>
    obtain ⟨hwritten, rfl⟩ := Prod.mk.inj hput
    have hstore : store.putRecord r = (.ok (), (store.putRecord r).2) := Prod.ext hwritten rfl
    refine ⟨RelationalStore.findRecord_putRecord_iff hstore, ?_⟩
    intro key unpublished hkey
    exact RelationalStore.findRecord_putRecord_of_ne hstore hkey unpublished

end Store

namespace ReadBack

def newYear (year : Int) (h : isDate year 1 1) : Instant :=
  ⟨⟨year, 1, 1, h⟩, 0, 0, 0, 0, by decide, by decide, by decide, by decide⟩

def news : Record where
  id := 1
  key := "/news"
  parent := none
  title := "News"
  content := ""
  canonical := .requireSlash
  published := true
  author := none
  lastModified := newYear 2025 (by decide)

def retitled : Record :=
  { news with title := "Late news" }

def renumbered : Record :=
  { news with id := 2 }

/-- `news` with a timestamp that takes five digits for its year. -/
def distant : Record :=
  { news with lastModified := newYear 10000 (by decide) }

def fresh : Store :=
  .relational .fresh

theorem readBack_retitled :
    ((fresh.after [.record news]).putRecord retitled).1 = .ok () ∧
      (((fresh.after [.record news]).putRecord retitled).2.answer (.record "/news" true)).1 =
        .ok (some retitled) ∧
      ((((fresh.after [.record news]).putRecord retitled).2.answer (.record "/news" true)).1 =
          .ok (some retitled) ↔
        (fresh.after [.record news]).Keeps retitled) ∧
      ∀ key unpublished, key ≠ "/news" →
        (((fresh.after [.record news]).putRecord retitled).2.answer (.record key unpublished)).1 =
          ((fresh.after [.record news]).answer (.record key unpublished)).1 := by
  have hput : ((fresh.after [.record news]).putRecord retitled).1 = .ok () := rfl
  exact ⟨hput, rfl, Store.readBack_iff [.record news] (Prod.ext hput rfl)⟩

/-- A page that is written again keeps its first id, and a distant year cannot be read at all. -/
theorem readBack_ne :
    ((fresh.after [.record news]).putRecord renumbered).1 = .ok () ∧
      (((fresh.after [.record news]).putRecord renumbered).2.answer (.record "/news" true)).1 =
        .ok (some news) ∧
      ((fresh.after []).putRecord distant).1 = .ok () ∧
      (((fresh.after []).putRecord distant).2.answer (.record "/news" true)).1 =
        .error (.malformed .record "/news" "bad last_modified: input contains invalid characters") :=
  ⟨rfl, rfl, rfl, rfl⟩

end ReadBack

end ContentServer
