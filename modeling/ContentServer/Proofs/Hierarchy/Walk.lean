import ContentServer.Proofs.Hierarchy

namespace ContentServer.Hierarchy

variable {entries others : List HierarchyEntry} {entry : HierarchyEntry} {id again : RecordId}

def parentOf (entries : List HierarchyEntry) (id : RecordId) : Option RecordId :=
  (find? entries id).bind HierarchyEntry.parent

/-- The id that is met `n` parent links above `id`. The last one may be that of no record. -/
def walk (entries : List HierarchyEntry) (id : RecordId) : Nat → Option RecordId
  | 0 => some id
  | n + 1 => (walk entries id n).bind (parentOf entries)

/-- Is this the first id that a walk meets for a second time? -/
def FirstRevisit (entries : List HierarchyEntry) (id again : RecordId) : Prop :=
  ∃ n, walk entries id n = some again ∧ (∃ m < n, walk entries id m = some again) ∧
    ∀ j < n, ∀ i < j, walk entries id i ≠ walk entries id j

def Revisits (entries : List HierarchyEntry) (id : RecordId) : Prop :=
  ∃ n, ∃ m < n, walk entries id n ≠ none ∧ walk entries id m = walk entries id n

/-- The entries from `next` upwards, nearest first, as far as there are parents. -/
inductive Lineage (entries : List HierarchyEntry) :
    Option RecordId → List HierarchyEntry → Prop where
  | root : Lineage entries none []
  | missing {id : RecordId} : find? entries id = none → Lineage entries (some id) []
  | child {id : RecordId} {entry : HierarchyEntry} {chain : List HierarchyEntry} :
      find? entries id = some entry → Lineage entries entry.parent chain →
        Lineage entries (some id) (entry :: chain)

theorem walk_succ_of_find? {n : Nat} (hwalk : walk entries id n = some again)
    (hfound : find? entries again = some entry) : walk entries id (n + 1) = entry.parent := by
  rw [walk, hwalk, Option.bind_some, parentOf, hfound, Option.bind_some]

theorem walk_add_eq_none {n : Nat} (h : walk entries id n = none) (k : Nat) :
    walk entries id (n + k) = none := by
  induction k with
  | zero => exact h
  | succ k ih => rw [Nat.add_succ, walk, ih, Option.bind_none]

theorem walk_add_eq {m n : Nat} (h : walk entries id m = walk entries id n) (k : Nat) :
    walk entries id (m + k) = walk entries id (n + k) := by
  induction k with
  | zero => exact h
  | succ k ih => rw [Nat.add_succ, Nat.add_succ, walk, walk, ih]

theorem FirstRevisit.revisits (h : FirstRevisit entries id again) : Revisits entries id := by
  obtain ⟨n, hn, ⟨m, hmn, hm⟩, -⟩ := h
  refine ⟨n, m, hmn, ?_, hm.trans hn.symm⟩
  rw [hn]
  exact Option.some_ne_none again

theorem FirstRevisit.unique {other : RecordId} (h : FirstRevisit entries id again)
    (h' : FirstRevisit entries id other) : again = other := by
  obtain ⟨n, hn, ⟨m, hmn, hm⟩, hfirst⟩ := h
  obtain ⟨n', hn', ⟨m', hmn', hm'⟩, hfirst'⟩ := h'
  obtain hlt | rfl | hlt := Nat.lt_trichotomy n n'
  · exact absurd (hm.trans hn.symm) (hfirst' n hlt m hmn)
  · exact Option.some.inj (hn.symm.trans hn')
  · exact absurd (hm'.trans hn'.symm) (hfirst n' hlt m' hmn')

theorem Revisits.walk_ne_none (h : Revisits entries id) (j : Nat) : walk entries id j ≠ none := by
  obtain ⟨n, m, hmn, hn, hsame⟩ := h
  induction j using Nat.strongRecOn with
  | ind j ih =>
    intro hj
    -- Beyond the place where the walk comes back, it goes on as it did behind the first visit.
    by_cases hle : j ≤ n
    · have hend := walk_add_eq_none hj (n - j)
      rw [Nat.add_sub_cancel' hle] at hend
      exact hn hend
    · have hback := walk_add_eq hsame (j - n)
      rw [Nat.add_sub_cancel' (Nat.le_of_not_le hle), hj] at hback
      exact ih (m + (j - n)) (by omega) hback

theorem Lineage.exists_walk_eq_none {next : Option RecordId} {chain : List HierarchyEntry}
    (h : Lineage entries next chain) {n : Nat} (hwalk : walk entries id n = next) :
    ∃ k, walk entries id k = none := by
  induction h generalizing n with
  | root => exact ⟨n, hwalk⟩
  | missing hnone =>
    refine ⟨n + 1, ?_⟩
    rw [walk, hwalk, Option.bind_some, parentOf, hnone, Option.bind_none]
  | child hfound _ ih => exact ih (walk_succ_of_find? hwalk hfound)

theorem Lineage.unique {next : Option RecordId} {chain other : List HierarchyEntry}
    (h : Lineage entries next chain) (h' : Lineage entries next other) : chain = other := by
  induction h generalizing other with
  | root =>
    cases h'
    rfl
  | missing hnone =>
    cases h' with
    | missing _ => rfl
    | child hfound _ => cases hnone.symm.trans hfound
  | child hfound _ ih =>
    cases h' with
    | missing hnone => cases hnone.symm.trans hfound
    | child hfound' hrest =>
      obtain rfl := Option.some.inj (hfound.symm.trans hfound')
      rw [ih hrest]

theorem lineage_of_climb {seen : List RecordId} {next : Option RecordId}
    (h : (climb entries seen next).2 = none) :
    Lineage entries next (climb entries seen next).1 := by
  fun_induction climb entries seen next with
  | case1 => exact .root
  | case2 => cases h
  | case3 seen id hid hnone => exact .missing hnone
  | case4 seen id hid entry hfound above again hclimb ih =>
    rw [hclimb] at ih
    exact .child hfound (ih h)

/-- What stops a climb is the first id met again. What was seen are the ids met so far, all
different. -/
theorem firstRevisit_of_climb {seen : List RecordId} {next : Option RecordId} {n : Nat}
    (hwalk : walk entries id n = next) (hseen : ∀ i, i ∈ seen ↔ ∃ m < n, walk entries id m = some i)
    (hfresh : ∀ j < n, ∀ i < j, walk entries id i ≠ walk entries id j)
    (h : (climb entries seen next).2 = some again) : FirstRevisit entries id again := by
  fun_induction climb entries seen next generalizing n with
  | case1 => cases h
  | case2 seen own hown =>
    obtain rfl := Option.some.inj h
    exact ⟨n, hwalk, (hseen own).mp hown, hfresh⟩
  | case3 => cases h
  | case4 seen own hown entry hfound above stop hclimb ih =>
    rw [hclimb] at ih
    refine ih (walk_succ_of_find? hwalk hfound) (fun i => ?_) (fun j hj i hij => ?_) h
    · rw [List.mem_cons, hseen]
      constructor
      · rintro (rfl | ⟨m, hm, hmet⟩)
        · exact ⟨n, Nat.lt_succ_self n, hwalk⟩
        · exact ⟨m, Nat.lt_succ_of_lt hm, hmet⟩
      · rintro ⟨m, hm, hmet⟩
        obtain hm | rfl := Nat.lt_succ_iff_lt_or_eq.mp hm
        · exact .inr ⟨m, hm, hmet⟩
        · exact .inl (Option.some.inj (hmet.symm.trans hwalk))
    · obtain hj | rfl := Nat.lt_succ_iff_lt_or_eq.mp hj
      · exact hfresh j hj i hij
      · intro hsame
        exact hown ((hseen own).mpr ⟨i, hij, hsame.trans hwalk⟩)

section Climb

variable (entries id)

theorem climb_snd_eq_some_iff :
    (climb entries [] (some id)).2 = some again ↔ FirstRevisit entries id again := by
  have hfirst : ∀ stop, (climb entries [] (some id)).2 = some stop → FirstRevisit entries id stop :=
    fun stop => firstRevisit_of_climb (n := 0) rfl (by simp) (by simp)
  refine ⟨hfirst again, fun h => ?_⟩
  cases hclimb : (climb entries [] (some id)).2 with
  | some stop => rw [(hfirst stop hclimb).unique h]
  | none =>
    -- A climb that nothing stops comes to an end of the walk, and a walk that comes back has none.
    obtain ⟨k, hk⟩ := (lineage_of_climb hclimb).exists_walk_eq_none (n := 0) rfl
    exact absurd hk (h.revisits.walk_ne_none k)

theorem climb_eq_iff (chain : List HierarchyEntry) :
    climb entries [] (some id) = (chain, none) ↔ Lineage entries (some id) chain := by
  constructor
  · intro h
    have hchain := lineage_of_climb (congrArg Prod.snd h)
    rwa [h] at hchain
  · intro h
    cases hclimb : (climb entries [] (some id)).2 with
    | some stop =>
      have hback := ((climb_snd_eq_some_iff entries id).mp hclimb).revisits
      obtain ⟨k, hk⟩ := h.exists_walk_eq_none (n := 0) rfl
      exact absurd hk (hback.walk_ne_none k)
    | none => exact Prod.ext ((lineage_of_climb hclimb).unique h) hclimb

theorem climb_snd_ne_none_iff : (climb entries [] (some id)).2 ≠ none ↔ Revisits entries id := by
  constructor
  · intro h
    obtain ⟨again, hagain⟩ := Option.ne_none_iff_exists'.mp h
    exact ((climb_snd_eq_some_iff entries id).mp hagain).revisits
  · intro h hnone
    obtain ⟨k, hk⟩ := (lineage_of_climb hnone).exists_walk_eq_none (n := 0) rfl
    exact h.walk_ne_none k hk

end Climb

theorem find?_of_mem_climb {seen : List RecordId} {next : Option RecordId}
    (h : entry ∈ (climb entries seen next).1) : find? entries entry.id = some entry := by
  fun_induction climb entries seen next with
  | case1 => cases h
  | case2 => cases h
  | case3 => cases h
  | case4 seen own hown first hfound above again hclimb ih =>
    rw [hclimb] at ih
    obtain rfl | h := List.mem_cons.mp h
    · rwa [id_of_find? hfound]
    · exact ih h

theorem exists_walk_of_mem_climb {seen : List RecordId} {next : Option RecordId} {n : Nat}
    (hwalk : walk entries id n = next) (h : entry ∈ (climb entries seen next).1) :
    ∃ m, walk entries id m = some entry.id := by
  fun_induction climb entries seen next generalizing n with
  | case1 => cases h
  | case2 => cases h
  | case3 => cases h
  | case4 seen own hown first hfound above again hclimb ih =>
    rw [hclimb] at ih
    obtain rfl | h := List.mem_cons.mp h
    · exact ⟨n, hwalk.trans (congrArg some (id_of_find? hfound).symm)⟩
    · exact ih (walk_succ_of_find? hwalk hfound) h

theorem mem_ancestors_of_walk {n : Nat} (h : (walk entries id n).bind (find? entries) = some entry) :
    entry ∈ ancestors entries id := by
  induction n generalizing entry with
  | zero => exact (mem_climb_of_find? h).resolve_left List.not_mem_nil
  | succ n ih =>
    obtain ⟨own, hown, hfound⟩ := Option.bind_eq_some_iff.mp h
    obtain ⟨below, hbelow, hparent⟩ := Option.bind_eq_some_iff.mp hown
    obtain ⟨first, hfirst, hup⟩ := Option.bind_eq_some_iff.mp hparent
    have hmem : first ∈ ancestors entries id :=
      ih (Option.bind_eq_some_iff.mpr ⟨below, hbelow, hfirst⟩)
    exact (mem_climb_of_parent hmem hup hfound).resolve_left List.not_mem_nil

theorem mem_ancestors_iff_walk :
    entry ∈ ancestors entries id ↔ ∃ n, (walk entries id n).bind (find? entries) = some entry := by
  constructor
  · intro h
    obtain ⟨n, hn⟩ := exists_walk_of_mem_climb (n := 0) rfl h
    exact ⟨n, Option.bind_eq_some_iff.mpr ⟨entry.id, hn, find?_of_mem_climb h⟩⟩
  · rintro ⟨n, hn⟩
    exact mem_ancestors_of_walk hn

theorem climb_congr_of_walk
    (h : ∀ n i, walk entries id n = some i → find? entries i = find? others i) {n : Nat}
    {next : Option RecordId} (hwalk : walk entries id n = next) (seen : List RecordId) :
    climb entries seen next = climb others seen next := by
  fun_induction climb entries seen next generalizing n with
  | case1 => rw [climb]
  | case2 seen own hown => rw [climb_of_mem hown]
  | case3 seen own hown hnone => rw [climb_of_not_mem hown, ← h n own hwalk, hnone]
  | case4 seen own hown entry hfound above again hclimb ih =>
    rw [climb_of_not_mem hown, ← h n own hwalk, hfound]
    dsimp only
    rw [← ih (walk_succ_of_find? hwalk hfound), hclimb]
    rfl

/-- The ancestors of an id make up the same climb as all entries, in whatever order they come. -/
theorem climb_of_perm {listed : List HierarchyEntry} (hperm : listed.Perm (ancestors entries id)) :
    climb listed [] (some id) = climb entries [] (some id) := by
  have hids : (listed.map HierarchyEntry.id).Nodup :=
    (hperm.map HierarchyEntry.id).nodup_iff.mpr (nodup_climb [] (some id)).1
  have hsame : ∀ n i, walk entries id n = some i → find? entries i = find? listed i := by
    intro n i hi
    refine Option.ext fun e => ?_
    rw [find?_eq_some_iff hids, hperm.mem_iff]
    constructor
    · intro hfound
      exact ⟨mem_ancestors_of_walk (Option.bind_eq_some_iff.mpr ⟨i, hi, hfound⟩),
        id_of_find? hfound⟩
    · rintro ⟨hmem, rfl⟩
      exact find?_of_mem_climb hmem
  exact (climb_congr_of_walk (n := 0) hsame rfl []).symm

theorem trail_eq_error_iff {again : RecordId} :
    trail entries id = .error ⟨again⟩ ↔ (climb entries.reverse [] (some id)).2 = some again := by
  rw [trail]
  split
  · next hclimb => simp [hclimb]
  · next hclimb => simp [hclimb]

theorem trail_eq_ok_iff {crumbs : List Breadcrumb} :
    trail entries id = .ok crumbs ↔ ∃ chain, climb entries.reverse [] (some id) = (chain, none) ∧
      crumbs = (chain.map fun e => .link e.title e.key).reverse := by
  rw [trail]
  split
  · next chain hclimb => simp [hclimb, eq_comm]
  · next hclimb => simp [hclimb]

end ContentServer.Hierarchy
