import ContentServer.Record
import Mathlib.Data.List.Nodup

namespace ContentServer.Hierarchy

variable {entries others : List HierarchyEntry} {entry : HierarchyEntry} {id : RecordId}

theorem find?_cons (entry : HierarchyEntry) (entries : List HierarchyEntry) (id : RecordId) :
    find? (entry :: entries) id = if entry.id = id then some entry else find? entries id := by
  rw [find?, List.find?_cons]
  split
  · next h => exact (if_pos (of_decide_eq_true h)).symm
  · next h => exact (if_neg (of_decide_eq_false h)).symm

theorem id_of_find? (h : find? entries id = some entry) : entry.id = id := by
  simpa using List.find?_some h

theorem find?_eq_some_iff (hids : (entries.map HierarchyEntry.id).Nodup) :
    find? entries id = some entry ↔ entry ∈ entries ∧ entry.id = id := by
  constructor
  · intro h
    exact ⟨List.mem_of_find?_eq_some h, id_of_find? h⟩
  · rintro ⟨hmem, rfl⟩
    cases hfound : find? entries entry.id with
    | none => simpa using List.find?_eq_none.mp hfound entry hmem
    | some found =>
      have hfirst := List.mem_of_find?_eq_some hfound
      rw [List.inj_on_of_nodup_map hids hfirst hmem (id_of_find? hfound)]

theorem find?_eq_of_mem_iff (hids : (entries.map HierarchyEntry.id).Nodup)
    (hids' : (others.map HierarchyEntry.id).Nodup) (hmem : ∀ e, e ∈ entries ↔ e ∈ others)
    (id : RecordId) :
    find? entries id = find? others id := by
  refine Option.ext fun e => ?_
  rw [find?_eq_some_iff hids, find?_eq_some_iff hids', hmem]

theorem climb_of_mem {seen : List RecordId} (h : id ∈ seen) :
    climb entries seen (some id) = ([], some id) := by
  rw [climb, dif_pos h]

theorem climb_of_not_mem {seen : List RecordId} (h : id ∉ seen) :
    climb entries seen (some id) =
      match find? entries id with
      | none => ([], none)
      | some entry => (climb entries (id :: seen) entry.parent).map (entry :: ·) (fun again => again) := by
  rw [climb, dif_neg h]
  split
  · next hfound => rw [hfound]
  · next entry hfound => rw [hfound]; rfl

theorem climb_congr (h : ∀ id, find? entries id = find? others id) (seen : List RecordId)
    (next : Option RecordId) : climb entries seen next = climb others seen next := by
  fun_induction climb entries seen next with
  | case1 => rw [climb]
  | case2 seen id hid => rw [climb_of_mem hid]
  | case3 seen id hid hnone => rw [climb_of_not_mem hid, ← h, hnone]
  | case4 seen id hid entry hfound above again hclimb ih =>
    rw [climb_of_not_mem hid, ← h, hfound]
    dsimp only
    rw [← ih, hclimb]
    rfl

theorem ancestors_congr (h : ∀ id, find? entries id = find? others id) (id : RecordId) :
    ancestors entries id = ancestors others id := by
  rw [ancestors, ancestors, climb_congr h]

theorem head?_ancestors (entries : List HierarchyEntry) (id : RecordId) :
    (ancestors entries id).head? = find? entries id := by
  rw [ancestors, climb_of_not_mem List.not_mem_nil]
  cases find? entries id <;> rfl

/-- The entries that are reached from an id: its own, and those of the parents of entries that
are. -/
inductive Reached (entries : List HierarchyEntry) (id : RecordId) : HierarchyEntry → Prop where
  | self {entry : HierarchyEntry} : entry ∈ entries → entry.id = id → Reached entries id entry
  | parent {entry above : HierarchyEntry} : Reached entries id entry → above ∈ entries →
      entry.parent = some above.id → Reached entries id above

theorem Reached.mem (h : Reached entries id entry) : entry ∈ entries := by
  cases h with
  | self hmem _ => exact hmem
  | parent _ hmem _ => exact hmem

theorem Reached.of_parent {entry found : HierarchyEntry} {parent : RecordId}
    (hentry : Reached entries id entry) (hparent : entry.parent = some parent)
    (h : Reached entries parent found) : Reached entries id found := by
  induction h with
  | self hmem hid => exact .parent hentry hmem (hparent.trans (congrArg some hid.symm))
  | parent _ hmem hup ih => exact .parent ih hmem hup

theorem reached_of_mem_climb {seen : List RecordId} {next : Option RecordId}
    (h : entry ∈ (climb entries seen next).1) :
    ∃ id, next = some id ∧ Reached entries id entry := by
  fun_induction climb entries seen next with
  | case1 => cases h
  | case2 => cases h
  | case3 => cases h
  | case4 seen id hid first hfound above again hclimb ih =>
    rw [hclimb] at ih
    have hself : Reached entries id first :=
      .self (List.mem_of_find?_eq_some hfound) (id_of_find? hfound)
    refine ⟨id, rfl, ?_⟩
    obtain rfl | h := List.mem_cons.mp h
    · exact hself
    · obtain ⟨parent, hparent, hreached⟩ := ih h
      exact hself.of_parent hparent hreached

theorem mem_climb_of_find? {seen : List RecordId} (h : find? entries id = some entry) :
    id ∈ seen ∨ entry ∈ (climb entries seen (some id)).1 := by
  by_cases hid : id ∈ seen
  · exact .inl hid
  · rw [climb_of_not_mem hid, h]
    exact .inr List.mem_cons_self

/-- A walk that meets an entry meets its parent as well, unless it had met it before. -/
theorem mem_climb_of_parent {seen : List RecordId} {next : Option RecordId} {above : HierarchyEntry}
    (h : entry ∈ (climb entries seen next).1) (hparent : entry.parent = some id)
    (hfound : find? entries id = some above) : id ∈ seen ∨ above ∈ (climb entries seen next).1 := by
  fun_induction climb entries seen next with
  | case1 => cases h
  | case2 => cases h
  | case3 => cases h
  | case4 seen own hown first hfirst rest again hclimb ih =>
    rw [hclimb] at ih
    have hrest : id ∈ own :: seen ∨ above ∈ rest := by
      obtain rfl | h := List.mem_cons.mp h
      · have hnext : id ∈ own :: seen ∨ above ∈ (climb entries (own :: seen) (some id)).1 :=
          mem_climb_of_find? hfound
        rw [← hparent, hclimb] at hnext
        exact hnext
      · exact ih h
    obtain hid | habove := hrest
    · obtain rfl | hid := List.mem_cons.mp hid
      · obtain rfl := Option.some.inj (hfirst.symm.trans hfound)
        exact .inr List.mem_cons_self
      · exact .inl hid
    · exact .inr (List.mem_cons_of_mem _ habove)

theorem nodup_climb (seen : List RecordId) (next : Option RecordId) :
    ((climb entries seen next).1.map HierarchyEntry.id).Nodup ∧
      ∀ e ∈ (climb entries seen next).1, e.id ∉ seen := by
  fun_induction climb entries seen next with
  | case1 => exact ⟨.nil, nofun⟩
  | case2 => exact ⟨.nil, nofun⟩
  | case3 => exact ⟨.nil, nofun⟩
  | case4 seen id hid entry hfound rest again hclimb ih =>
    rw [hclimb] at ih
    obtain ⟨hnodup, hunseen⟩ := ih
    have hentry := id_of_find? hfound
    refine ⟨?_, ?_⟩
    · refine List.nodup_cons.mpr ⟨fun hmem => ?_, hnodup⟩
      obtain ⟨e, he, hsame⟩ := List.mem_map.mp hmem
      exact hunseen e he (by rw [hsame, hentry]; exact List.mem_cons_self)
    · intro e he
      obtain rfl | he := List.mem_cons.mp he
      · rwa [hentry]
      · exact fun hseen => hunseen e he (List.mem_cons_of_mem _ hseen)

section Distinct

variable (hids : (entries.map HierarchyEntry.id).Nodup)

include hids

theorem mem_ancestors_iff : entry ∈ ancestors entries id ↔ Reached entries id entry := by
  constructor
  · intro h
    obtain ⟨_, ⟨⟩, hreached⟩ := reached_of_mem_climb h
    exact hreached
  · intro h
    induction h with
    | self hmem hid =>
      have hfound := (find?_eq_some_iff hids).mpr ⟨hmem, hid⟩
      exact (mem_climb_of_find? hfound).resolve_left List.not_mem_nil
    | parent _ hmem hparent ih =>
      have hfound := (find?_eq_some_iff hids).mpr ⟨hmem, rfl⟩
      exact (mem_climb_of_parent ih hparent hfound).resolve_left List.not_mem_nil

end Distinct

/-- The trail does not depend on the order of entries with distinct ids. -/
theorem trail_eq_of_mem_iff (hids : (entries.map HierarchyEntry.id).Nodup)
    (hids' : (others.map HierarchyEntry.id).Nodup) (hmem : ∀ e, e ∈ entries ↔ e ∈ others)
    (current : RecordId) : trail entries current = trail others current := by
  have hfind : ∀ id, find? entries.reverse id = find? others.reverse id :=
    find?_eq_of_mem_iff (by rwa [List.map_reverse, List.nodup_reverse])
      (by rwa [List.map_reverse, List.nodup_reverse]) (by simpa using hmem)
  rw [trail, trail, climb_congr hfind]

end ContentServer.Hierarchy
