import ContentServer.Proofs.Assoc
import ContentServer.Proofs.Store.ReadBack
import Mathlib.Data.String.Basic

namespace ContentServer

namespace RelationalStore

variable {s t : RelationalStore} {pages : Assoc String PageRow} {r : Record}

/-- The constraints on the table of pages: it is there, and its keys, which ascend, and ids are
unique. -/
def IsConstrained (s : RelationalStore) : Prop :=
  ∃ pages, s.pages = some pages ∧ pages.Sorted ∧ (pages.values.map PageRow.id).Nodup

theorem isConstrained_fresh : fresh.IsConstrained :=
  ⟨∅, rfl, .empty, .nil⟩

theorem IsConstrained.putRecord (h : s.IsConstrained) (r : Record) :
    (s.putRecord r).2.IsConstrained := by
  obtain ⟨pages, hpages, hkeys, hids⟩ := h
  obtain ⟨present, hpresent, hput⟩ | ⟨-, -, hput⟩ | ⟨hnew, hfree, hput⟩ := putPage_cases pages r
  · rw [putRecord_of_ok hpages hput]
    refine ⟨_, rfl, hkeys.insert _ _, ?_⟩
    rw [hkeys.map_values_insert hpresent]
    · exact hids
    · rfl
  · rw [putRecord_of_error hpages hput]
    exact ⟨pages, hpages, hkeys, hids⟩
  · rw [putRecord_of_ok hpages hput]
    refine ⟨_, rfl, hkeys.insert _ _, ?_⟩
    rw [((Assoc.values_insert_perm hnew _).map PageRow.id).nodup_iff, List.map_cons,
      List.nodup_cons]
    refine ⟨fun hmem => ?_, hids⟩
    obtain ⟨row, hrow, hid⟩ := List.mem_map.mp hmem
    exact hfree row hrow hid

theorem IsConstrained.putRedirect (h : s.IsConstrained) (rule : RedirectRule) :
    (s.putRedirect rule).2.IsConstrained := by
  unfold RelationalStore.putRedirect
  split
  · exact h
  · exact h

theorem IsConstrained.after (h : s.IsConstrained) (writes : List Write) :
    ∃ t, (Store.relational s).after writes = .relational t ∧ t.IsConstrained := by
  induction writes generalizing s with
  | nil => exact ⟨s, rfl, h⟩
  | cons w writes ih =>
    cases w with
    | record r => exact ih (h.putRecord r)
    | redirect rule => exact ih (h.putRedirect rule)

theorem putRecord_eq_error_iff (hpages : s.pages = some pages) {e : StoreError} :
    (s.putRecord r).1 = .error e ↔
      e = .duplicateKey .record (toString r.id) ∧ pages.get? r.key = none ∧
        ∃ row ∈ pages.values, row.id = r.id := by
  obtain ⟨present, hpresent, hput⟩ | ⟨hnew, htaken, hput⟩ | ⟨-, hfree, hput⟩ :=
    putPage_cases pages r
  · rw [putRecord_of_ok hpages hput]
    simp [hpresent]
  · rw [putRecord_of_error hpages hput]
    simp only [hnew, htaken, Except.error.injEq, and_true]
    exact eq_comm
  · rw [putRecord_of_ok hpages hput]
    refine iff_of_false (by simp) ?_
    rintro ⟨-, -, row, hrow, hid⟩
    exact hfree row hrow hid

end RelationalStore

namespace Store

/-- Whatever was written to a database, successfully or not, no two of its pages share a key or an
id. It refuses a record if and only if there is no page under its key and another page has its id;
the error names the id, and the store is left as it was. -/
theorem putRecord_refused_iff :
    RelationalStore.fresh.IsConstrained ∧
      ∀ s : RelationalStore, s.IsConstrained → ∀ writes : List Write,
        ∃ t pages, (relational s).after writes = relational t ∧ t.pages = some pages ∧
          pages.keys.Nodup ∧ (pages.values.map PageRow.id).Nodup ∧
          ∀ r, (∀ e, ((relational t).putRecord r).1 = .error e ↔
              e = .duplicateKey .record (toString r.id) ∧ pages.get? r.key = none ∧
                ∃ row ∈ pages.values, row.id = r.id) ∧
            (((relational t).putRecord r).1 ≠ .ok () → ((relational t).putRecord r).2 = relational t) := by
  refine ⟨RelationalStore.isConstrained_fresh, fun s hs writes => ?_⟩
  obtain ⟨t, hafter, pages, hpages, hkeys, hids⟩ := hs.after writes
  refine ⟨t, pages, hafter, hpages, hkeys.nodup, hids, fun r => ⟨fun e => ?_, fun hfailed => ?_⟩⟩
  · exact RelationalStore.putRecord_eq_error_iff hpages
  · cases hput : t.putRecord r with
    | mk result u =>
      cases result with
      | ok _ => exact absurd (congrArg Prod.fst hput) hfailed
      | error e =>
        obtain rfl := RelationalStore.putRecord_eq_error hput
        simp only [putRecord, hput]
        rfl

end Store

namespace Collision

open ReadBack (fresh news renumbered)

def borrowed : Record :=
  { news with key := "/late" }

def held : Store :=
  fresh.after [.record news, .record borrowed]

/-- A new page is refused for its id; a page that is written over is not, whatever its id. -/
theorem putRecord_refused_borrowed :
    RelationalStore.fresh.IsConstrained ∧
      (held.putRecord borrowed).1 = .error (.duplicateKey .record "1") ∧
      (held.putRecord borrowed).2 = held ∧
      (held.putRecord renumbered).1 = .ok () := by
  obtain ⟨hfresh, hrefused⟩ := Store.putRecord_refused_iff
  obtain ⟨t, pages, hafter, hpages, -, -, hput⟩ :=
    hrefused .fresh hfresh [.record news, .record borrowed]
  have hheld : held = .relational t := hafter
  rw [hheld]
  cases hafter
  cases hpages
  have herror :=
    ((hput borrowed).1 _).mpr ⟨rfl, by decide +kernel, _, List.mem_singleton.mpr rfl, rfl⟩
  refine ⟨hfresh, herror, (hput borrowed).2 ?_, rfl⟩
  rw [herror]
  simp

end Collision

end ContentServer
