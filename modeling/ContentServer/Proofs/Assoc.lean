import ContentServer.Assoc

namespace ContentServer

namespace Assoc

variable {κ α β : Type} [DecidableEq κ]

theorem mem_of_lookup {k : κ} {a : α} {l : List (κ × α)} (h : l.lookup k = some a) :
    (k, a) ∈ l := by
  obtain ⟨before, after, rfl, -⟩ := List.lookup_eq_some_iff.mp h
  exact List.mem_append_right _ List.mem_cons_self

theorem lookup_of_mem {k : κ} {a : α} {l : List (κ × α)} (hkeys : (l.map Prod.fst).Nodup)
    (hmem : (k, a) ∈ l) : l.lookup k = some a := by
  obtain ⟨before, after, rfl⟩ := List.append_of_mem hmem
  refine List.lookup_eq_some_iff.mpr ⟨before, after, rfl, fun e he => bne_iff_ne.mpr ?_⟩
  rintro rfl
  rw [List.map_append] at hkeys
  exact (List.nodup_append.mp hkeys).2.2 _ (List.mem_map_of_mem he) _ List.mem_cons_self rfl

theorem isSome_lookup_iff (k : κ) (l : List (κ × α)) : (l.lookup k).isSome ↔ k ∈ l.map (·.1) := by
  rw [List.lookup_isSome_iff, List.mem_map]
  exact exists_congr fun e => and_congr_right fun _ => beq_iff_eq.trans eq_comm

theorem lookup_filter_mem {k : κ} {ks : List κ} (hk : k ∈ ks) (l : List (κ × α)) :
    (l.filter fun e => decide (e.1 ∈ ks)).lookup k = l.lookup k := by
  induction l with
  | nil => rfl
  | cons e l ih =>
    rw [List.filter_cons]
    split
    · rw [List.lookup_cons, ih, List.lookup_cons]
    · next hout =>
      have hne : k ≠ e.1 := by
        rintro rfl
        exact hout (decide_eq_true hk)
      rw [ih, lookup_cons_of_ne hne]

theorem lookup_map (f : α → β) (k : κ) (l : List (κ × α)) :
    (l.map fun e => (e.1, f e.2)).lookup k = (l.lookup k).map f := by
  induction l with
  | nil => rfl
  | cons e l ih =>
    rw [List.map_cons, List.lookup_cons, List.lookup_cons, ih]
    split <;> rfl

def mapValues (f : α → β) (m : Assoc κ α) : Assoc κ β :=
  ⟨m.entries.map fun e => (e.1, f e.2)⟩

omit [DecidableEq κ] in
theorem keys_mapValues (f : α → β) (m : Assoc κ α) : (m.mapValues f).keys = m.keys := by
  rw [keys, mapValues, List.map_map]
  rfl

omit [DecidableEq κ] in
theorem mem_values_mapValues {f : α → β} {m : Assoc κ α} {b : β} (h : b ∈ (m.mapValues f).values) :
    ∃ e ∈ m.entries, f e.2 = b := by
  rw [values, mapValues, List.map_map] at h
  exact List.mem_map.mp h

theorem get?_mapValues (f : α → β) (m : Assoc κ α) (k : κ) :
    (m.mapValues f).get? k = (m.get? k).map f :=
  lookup_map f k m.entries

variable [LT κ] [DecidableLT κ]

theorem mem_put {k : κ} {a : α} {e : κ × α} {l : List (κ × α)} (h : e ∈ put k a l) :
    e = (k, a) ∨ e ∈ l := by
  induction l with
  | nil => exact .inl (List.mem_singleton.mp h)
  | cons first l ih =>
    rw [put] at h
    split at h
    · exact (List.mem_cons.mp h).imp_right (List.mem_cons_of_mem _)
    · split at h
      · exact List.mem_cons.mp h
      · obtain rfl | h := List.mem_cons.mp h
        · exact .inr List.mem_cons_self
        · exact (ih h).imp_right (List.mem_cons_of_mem _)

/-- An entry stays when another is put in, unless it is the one that is found under the same key. -/
theorem mem_put_of_mem {j : κ} {b : α} {l : List (κ × α)} (k : κ) (a : α) (h : (j, b) ∈ l) :
    (j, b) ∈ put k a l ∨ j = k ∧ l.lookup k = some b := by
  induction l with
  | nil => cases h
  | cons e l ih =>
    rw [put]
    split
    · next hk =>
      obtain rfl | h := List.mem_cons.mp h
      · exact .inr ⟨hk.symm, hk ▸ List.lookup_cons_self⟩
      · exact .inl (List.mem_cons_of_mem _ h)
    · next hk =>
      rw [lookup_cons_of_ne hk]
      split
      · exact .inl (List.mem_cons_of_mem _ h)
      · obtain rfl | h := List.mem_cons.mp h
        · exact .inl List.mem_cons_self
        · exact (ih h).imp_left (List.mem_cons_of_mem _)

theorem get?_insert_eq_some_iff {m : Assoc κ α} {j k : κ} {a b : α} :
    (m.insert k a).get? j = some b ↔ j = k ∧ b = a ∨ j ≠ k ∧ m.get? j = some b := by
  by_cases h : j = k
  · subst h
    simp [eq_comm]
  · simp [get?_insert_of_ne m h, h]

theorem mapValues_insert (f : α → β) (m : Assoc κ α) (k : κ) (a : α) :
    (m.insert k a).mapValues f = (m.mapValues f).insert k (f a) := by
  have hput : ∀ l : List (κ × α),
      (put k a l).map (fun e => (e.1, f e.2)) = put k (f a) (l.map fun e => (e.1, f e.2)) := by
    intro l
    induction l with
    | nil => rfl
    | cons e l ih =>
      rw [put, List.map_cons, put]
      split
      · rfl
      · split
        · rfl
        · rw [List.map_cons, ih]
  exact congrArg Assoc.mk (hput m.entries)

theorem put_perm {k : κ} {l : List (κ × α)} (h : l.lookup k = none) (a : α) :
    (put k a l).Perm ((k, a) :: l) := by
  induction l with
  | nil => exact .refl _
  | cons e l ih =>
    rw [List.lookup_cons] at h
    split at h
    · cases h
    · next hne =>
      rw [put, if_neg (ne_of_beq_false hne)]
      split
      · exact .refl _
      · exact ((ih h).cons e).trans (.swap (k, a) e l)

/-- A new key brings its value, and takes none away. -/
theorem values_insert_perm {m : Assoc κ α} {k : κ} (h : m.get? k = none) (a : α) :
    (m.insert k a).values.Perm (a :: m.values) :=
  (put_perm h a).map Prod.snd

theorem put_put_self (k : κ) (a b : α) (l : List (κ × α)) : put k b (put k a l) = put k b l := by
  induction l with
  | nil => simp [put]
  | cons e l ih =>
    by_cases hk : k = e.1
    · simp [put, hk]
    · by_cases hlt : k < e.1
      · simp [put, hk, hlt]
      · simp [put, hk, hlt, ih]

theorem insert_insert_self (m : Assoc κ α) (k : κ) (a b : α) :
    (m.insert k a).insert k b = m.insert k b :=
  congrArg Assoc.mk (put_put_self k a b m.entries)

def insertAll (m : Assoc κ α) : List (κ × α) → Assoc κ α
  | [] => m
  | e :: l => (m.insert e.1 e.2).insertAll l

section Order

omit [DecidableEq κ] [DecidableLT κ]

/-- Do the keys ascend, as they do in every map that insertions made? -/
def Sorted (m : Assoc κ α) : Prop :=
  m.keys.Pairwise (· < ·)

theorem Sorted.empty : (∅ : Assoc κ α).Sorted :=
  .nil

theorem Sorted.nodup [Std.Irrefl (fun j k : κ => j < k)] {m : Assoc κ α} (h : m.Sorted) :
    m.keys.Nodup := by
  refine List.Pairwise.imp ?_ h
  rintro j _ hlt rfl
  exact Std.Irrefl.irrefl j hlt

variable [DecidableEq κ] [DecidableLT κ] [Std.Trichotomous (fun j k : κ => j < k)]
  [Trans (α := κ) (· < ·) (· < ·) (· < ·)]

theorem Sorted.insert {m : Assoc κ α} (h : m.Sorted) (k : κ) (a : α) : (m.insert k a).Sorted := by
  obtain ⟨l⟩ := m
  change (l.map (·.1)).Pairwise (· < ·) at h
  change ((put k a l).map (·.1)).Pairwise (· < ·)
  induction l with
  | nil => exact List.pairwise_singleton _ _
  | cons e l ih =>
    obtain ⟨hfirst, hrest⟩ := List.pairwise_cons.mp h
    rw [put]
    split
    · next hk =>
      subst hk
      exact h
    · next hne =>
      split
      · next hlt =>
        refine List.pairwise_cons.mpr ⟨fun j hj => ?_, h⟩
        obtain rfl | hj := List.mem_cons.mp hj
        · exact hlt
        · exact Trans.trans hlt (hfirst j hj)
      · next hge =>
        have hlt : e.1 < k := Decidable.byContradiction fun hle =>
          hne (Std.Trichotomous.trichotomous k e.1 hge hle)
        refine List.pairwise_cons.mpr ⟨fun j hj => ?_, ih hrest⟩
        obtain ⟨e', he', rfl⟩ := List.mem_map.mp hj
        obtain rfl | he' := mem_put he'
        · exact hlt
        · exact hfirst e'.1 (List.mem_map_of_mem he')

end Order

section Overwrite

variable [Std.Irrefl (fun j k : κ => j < k)] [Std.Trichotomous (fun j k : κ => j < k)]
  [Trans (α := κ) (· < ·) (· < ·) (· < ·)]

omit [DecidableEq κ] [DecidableLT κ] [Std.Trichotomous (fun j k : κ => j < k)] in
theorem ne_and_not_lt {j k : κ} (h : j < k) : k ≠ j ∧ ¬ k < j := by
  have hirrefl : ¬ j < j := Std.Irrefl.irrefl (r := fun j k : κ => j < k) j
  refine ⟨?_, fun hkj => hirrefl (Trans.trans h hkj)⟩
  rintro rfl
  exact hirrefl h

theorem put_comm_of_lt {j k : κ} (h : j < k) (a b : α) (l : List (κ × α)) :
    put k b (put j a l) = put j a (put k b l) := by
  obtain ⟨hne, hge⟩ := ne_and_not_lt h
  induction l with
  | nil => simp [put, hne, hge, hne.symm, h]
  | cons e l ih =>
    by_cases hj : j = e.1
    · simp [put, ← hj, hne, hge]
    · by_cases hlt : j < e.1
      · have hput : put j a (put k b (e :: l)) = (j, a) :: put k b (e :: l) := by
          by_cases hk : k = e.1
          · subst hk
            simp [put, hne.symm, h]
          · by_cases hke : k < e.1 <;> simp [put, hk, hke, hj, hlt, hne.symm, h]
        rw [hput]
        simp [put, hj, hlt, hne, hge]
      · have hej : e.1 < j := Decidable.byContradiction fun hle =>
          hj (Std.Trichotomous.trichotomous j e.1 hlt hle)
        obtain ⟨hke, hkge⟩ := ne_and_not_lt (Trans.trans hej h : e.1 < k)
        simp [put, hj, hlt, hke, hkge, ih]

theorem insert_comm {j k : κ} (h : j ≠ k) (a b : α) (m : Assoc κ α) :
    (m.insert j a).insert k b = (m.insert k b).insert j a := by
  apply congrArg Assoc.mk
  by_cases hlt : j < k
  · exact put_comm_of_lt hlt a b m.entries
  · have hkj : k < j := Decidable.byContradiction fun hle =>
      h (Std.Trichotomous.trichotomous j k hlt hle)
    exact (put_comm_of_lt hkj b a m.entries).symm

theorem insertAll_insert {k : κ} {l : List (κ × α)} (hk : k ∈ l.map Prod.fst) (m : Assoc κ α)
    (a : α) :
    (m.insert k a).insertAll l = m.insertAll l := by
  induction l generalizing m with
  | nil => cases hk
  | cons e l ih =>
    rw [insertAll, insertAll]
    by_cases he : k = e.1
    · rw [← he, insert_insert_self]
    · rw [insert_comm he]
      exact ih ((List.mem_cons.mp hk).resolve_left he) (m.insert e.1 e.2)

/-- What was inserted before under the same keys is overwritten. -/
theorem insertAll_insertAll {l written : List (κ × α)} (h : written.map Prod.fst ⊆ l.map Prod.fst)
    (m : Assoc κ α) : (m.insertAll written).insertAll l = m.insertAll l := by
  induction written generalizing m with
  | nil => rfl
  | cons e written ih =>
    rw [List.map_cons, List.cons_subset] at h
    rw [insertAll, ih h.2, insertAll_insert h.1]

omit [Std.Trichotomous (fun j k : κ => j < k)] in
theorem Sorted.map_values_insert {m : Assoc κ α} (h : m.Sorted) {k : κ} {a b : α} {f : α → β}
    (hb : m.get? k = some b) (hf : f a = f b) : (m.insert k a).values.map f = m.values.map f := by
  obtain ⟨l⟩ := m
  change (l.map Prod.fst).Pairwise (· < ·) at h
  change l.lookup k = some b at hb
  change ((put k a l).map Prod.snd).map f = (l.map Prod.snd).map f
  induction l with
  | nil => cases hb
  | cons e l ih =>
    obtain ⟨hfirst, hrest⟩ := List.pairwise_cons.mp h
    by_cases hk : k = e.1
    · rw [hk, List.lookup_cons_self, Option.some.injEq] at hb
      simp [put, hk, hf, hb]
    · rw [lookup_cons_of_ne hk] at hb
      have hlt : ¬ k < e.1 := (ne_and_not_lt (hfirst k (List.mem_map_of_mem (mem_of_lookup hb)))).2
      have hput : put k a (e :: l) = e :: put k a l := by simp [put, hk, hlt]
      rw [hput, List.map_cons, List.map_cons, List.map_cons, List.map_cons, ih hrest hb]

end Overwrite

end Assoc

end ContentServer
