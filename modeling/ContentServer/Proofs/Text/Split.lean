import ContentServer.Text.Basic
import Mathlib.Data.List.Basic
import Mathlib.Data.List.Induction

namespace ContentServer.Text

variable {α : Type} [DecidableEq α]

omit [DecidableEq α] in
theorem cons_intercalate (sep : α) {texts : List (List α)} (hne : texts ≠ []) :
    sep :: [sep].intercalate texts = texts.flatMap (sep :: ·) := by
  induction texts with
  | nil => exact absurd rfl hne
  | cons first texts ih =>
    cases texts with
    | nil => rw [List.intercalate_singleton, List.flatMap_singleton]
    | cons next texts =>
      rw [List.intercalate_cons_cons, List.append_assoc, List.singleton_append,
        ih (List.cons_ne_nil next texts)]
      rfl

theorem splitOn_intercalate_eq_flatMap (sep : α) {texts : List (List α)} (hne : texts ≠ []) :
    ([sep].intercalate texts).splitOn sep = texts.flatMap (·.splitOn sep) := by
  induction texts with
  | nil => exact absurd rfl hne
  | cons first texts ih =>
    cases texts with
    | nil => rw [List.intercalate_singleton, List.flatMap_singleton]
    | cons next texts =>
      rw [List.intercalate_cons_cons, List.append_assoc, List.singleton_append,
        List.splitOn_append_cons_self, ih (List.cons_ne_nil next texts)]
      exact List.flatMap_cons.symm

theorem flatMap_cons_splitOn (sep : α) (l : List α) :
    (l.splitOn sep).flatMap (sep :: ·) = sep :: l := by
  rw [← cons_intercalate sep (List.splitOn_ne_nil sep l), List.intercalate_splitOn]

theorem splitOn_concat {sep a : α} (ha : a ≠ sep) {l last : List α} {pieces : List (List α)}
    (h : l.splitOn sep = pieces ++ [last]) : (l ++ [a]).splitOn sep = pieces ++ [last ++ [a]] := by
  have hwhole := flatMap_cons_splitOn sep l
  have hfree : ∀ piece ∈ pieces ++ [last ++ [a]], sep ∉ piece := by
    have hpieces : ∀ piece ∈ pieces ++ [last], sep ∉ piece :=
      fun _ hpiece => notMem_of_mem_splitOn (h ▸ hpiece)
    simpa [or_imp, forall_and, Ne.symm ha] using hpieces
  have hjoined : sep :: (l ++ [a]) = sep :: [sep].intercalate (pieces ++ [last ++ [a]]) := by
    rw [cons_intercalate sep (by simp), List.flatMap_append, List.flatMap_singleton,
      ← List.cons_append, ← hwhole, h, List.flatMap_append, List.flatMap_singleton,
      List.append_assoc, List.cons_append]
  rw [(List.cons.inj hjoined).2, List.splitOn_intercalate sep hfree (by simp)]

/-- Where no two separators stand side by side, no piece is empty, except that the last one may
be. -/
theorem exists_splitOn_of_no_runs {sep : α} {l : List α} (h : ¬ [sep, sep] <:+: sep :: l) :
    ∃ pieces last, l.splitOn sep = pieces ++ [last] ∧
      sep :: l = pieces.flatMap (sep :: ·) ++ sep :: last ∧
      sep ∉ last ∧ [] ∉ pieces := by
  have hne := List.splitOn_ne_nil sep l
  have hsplit : l.splitOn sep = (l.splitOn sep).dropLast ++ [(l.splitOn sep).getLast hne] :=
    (List.dropLast_append_getLast hne).symm
  have hwhole := flatMap_cons_splitOn sep l
  have hlast := notMem_of_mem_splitOn (List.getLast_mem hne)
  generalize (l.splitOn sep).dropLast = pieces at hsplit
  generalize (l.splitOn sep).getLast hne = last at hsplit hlast
  rw [hsplit, List.flatMap_append, List.flatMap_singleton] at hwhole
  refine ⟨pieces, last, hsplit, hwhole.symm, hlast, fun hnil => h ?_⟩
  obtain ⟨before, after, rfl⟩ := List.append_of_mem hnil
  -- the separator of the empty piece is followed by that of the next one
  obtain ⟨rest, hrest⟩ : ∃ rest, after.flatMap (sep :: ·) ++ sep :: last = sep :: rest := by
    cases after with
    | nil => exact ⟨last, rfl⟩
    | cons piece after => exact ⟨_, rfl⟩
  refine ⟨before.flatMap (sep :: ·), rest, ?_⟩
  rw [← hwhole, List.flatMap_append, List.flatMap_cons, List.append_assoc, List.append_assoc,
    List.append_assoc, hrest]
  rfl

/-- Every run of separators as a single one. -/
def collapse (sep : α) : List α → List α
  | [] => []
  | a :: l => if a = sep ∧ l.head? = some sep then collapse sep l else a :: collapse sep l

theorem getLast?_collapse (sep : α) (l : List α) : (collapse sep l).getLast? = l.getLast? := by
  induction l with
  | nil => rfl
  | cons a l ih =>
    rw [collapse]
    split
    · next hrun =>
      obtain ⟨l, rfl⟩ := List.head?_eq_some_iff.mp hrun.2
      rw [ih, List.getLast?_cons_cons]
    · rw [List.getLast?_cons, List.getLast?_cons, ih]

/-- Collapsing keeps the first piece, and drops only empty ones from the others. -/
theorem splitOn_collapse (sep : α) (l : List α) :
    ∃ piece pieces kept, l.splitOn sep = piece :: pieces ∧
      (collapse sep l).splitOn sep = piece :: kept ∧
      kept.filter (! ·.isEmpty) = pieces.filter (! ·.isEmpty) := by
  induction l with
  | nil => exact ⟨[], [], [], rfl, rfl, rfl⟩
  | cons a l ih =>
    obtain ⟨piece, pieces, kept, hsplit, hcollapse, hkept⟩ := ih
    rw [collapse]
    by_cases ha : a = sep
    · subst ha
      split
      · next hrun =>
        obtain ⟨rest, rfl⟩ := List.head?_eq_some_iff.mp hrun.2
        obtain rfl : [] = piece := (List.cons.inj ((splitOn_cons_self a rest).symm.trans hsplit)).1
        refine ⟨[], [] :: pieces, kept, ?_, hcollapse, ?_⟩
        · rw [splitOn_cons_self, hsplit]
        · rw [List.filter_cons_of_neg (by simp), hkept]
      · refine ⟨[], piece :: pieces, piece :: kept, ?_, ?_, ?_⟩
        · rw [splitOn_cons_self, hsplit]
        · rw [splitOn_cons_self, hcollapse]
        · rw [List.filter_cons, List.filter_cons, hkept]
    · refine ⟨a :: piece, pieces, kept, ?_, ?_, hkept⟩
      · rw [splitOn_cons_of_ne ha, hsplit, List.modifyHead_cons]
      · rw [if_neg fun hrun => ha hrun.1, splitOn_cons_of_ne ha, hcollapse, List.modifyHead_cons]

theorem filter_splitOn_collapse (sep : α) (l : List α) :
    ((collapse sep l).splitOn sep).filter (! ·.isEmpty) = (l.splitOn sep).filter (! ·.isEmpty) := by
  obtain ⟨piece, pieces, kept, hsplit, hcollapse, hkept⟩ := splitOn_collapse sep l
  rw [hsplit, hcollapse, List.filter_cons, List.filter_cons, hkept]

theorem exists_last_piece (sep : α) (l : List α) :
    ∃ front piece, l = front ++ piece ∧ sep ∉ piece ∧ (front = [] ∨ front.getLast? = some sep) := by
  induction l using List.reverseRecOn with
  | nil => exact ⟨[], [], rfl, List.not_mem_nil, .inl rfl⟩
  | append_singleton l a ih =>
    by_cases ha : a = sep
    · exact ⟨l ++ [a], [], by rw [List.append_nil], List.not_mem_nil, .inr (by simp [ha])⟩
    · obtain ⟨front, piece, rfl, hpiece, hfront⟩ := ih
      refine ⟨front, piece ++ [a], List.append_assoc .., ?_, hfront⟩
      simpa [hpiece] using Ne.symm ha

theorem splitOn_append_of_notMem {sep : α} {l r first : List α} {others : List (List α)}
    (h : sep ∉ l) (hr : r.splitOn sep = first :: others) :
    (l ++ r).splitOn sep = (l ++ first) :: others := by
  induction l with
  | nil => exact hr
  | cons a l ih =>
    rw [List.mem_cons, not_or] at h
    rw [List.cons_append, splitOn_cons_of_ne (Ne.symm h.1), ih h.2]
    rfl

theorem cutFirst?_append_cons {sep : α} {l : List α} (h : sep ∉ l) (r : List α) :
    cutFirst? sep (l ++ sep :: r) = some (l, r) := by
  induction l with
  | nil => rw [List.nil_append, cutFirst?, if_pos rfl]
  | cons a l ih =>
    rw [List.mem_cons, not_or] at h
    rw [List.cons_append, cutFirst?, if_neg (Ne.symm h.1), ih h.2, Option.map_some]

theorem cutFirst?_eq_none_iff {sep : α} {l : List α} : cutFirst? sep l = none ↔ sep ∉ l := by
  constructor
  · intro hnone hmem
    obtain ⟨before, after, rfl, hbefore⟩ := List.eq_append_cons_of_mem hmem
    rw [cutFirst?_append_cons hbefore] at hnone
    cases hnone
  · intro h
    cases hcut : cutFirst? sep l with
    | none => rfl
    | some cut =>
      rw [cutFirst?_eq_some hcut] at h
      exact absurd (List.mem_append_right _ List.mem_cons_self) h

theorem cutFirst?_eq_some_iff {sep : α} {l before after : List α} :
    cutFirst? sep l = some (before, after) ↔ sep ∉ before ∧ l = before ++ sep :: after := by
  constructor
  · intro hcut
    have hmem : sep ∈ l := by
      rw [cutFirst?_eq_some hcut]
      exact List.mem_append_right _ List.mem_cons_self
    obtain ⟨first, rest, rfl, hfirst⟩ := List.eq_append_cons_of_mem hmem
    rw [cutFirst?_append_cons hfirst, Option.some.injEq, Prod.mk.injEq] at hcut
    obtain ⟨rfl, rfl⟩ := hcut
    exact ⟨hfirst, rfl⟩
  · rintro ⟨hbefore, rfl⟩
    exact cutFirst?_append_cons hbefore after

theorem append_cons_inj_of_notMem_left {sep : α} {l r l' r' : List α} (hl : sep ∉ l)
    (hl' : sep ∉ l') (h : l ++ sep :: r = l' ++ sep :: r') : l = l' ∧ r = r' := by
  have hcut := congrArg (cutFirst? sep) h
  rw [cutFirst?_append_cons hl, cutFirst?_append_cons hl', Option.some.injEq, Prod.mk.injEq] at hcut
  exact hcut

theorem cutLast?_eq_none {sep : α} {l : List α} (h : sep ∉ l) : cutLast? sep l = none := by
  induction l with
  | nil => rfl
  | cons a l ih =>
    rw [List.mem_cons, not_or] at h
    rw [cutLast?, ih h.2]
    exact if_neg (Ne.symm h.1)

theorem cutLast?_append_cons {sep : α} (l : List α) {r : List α} (h : sep ∉ r) :
    cutLast? sep (l ++ sep :: r) = some (l, r) := by
  induction l with
  | nil => rw [List.nil_append, cutLast?, cutLast?_eq_none h, if_pos rfl]
  | cons a l ih => rw [List.cons_append, cutLast?, ih]

theorem append_cons_inj_of_notMem_right {sep : α} {l r l' r' : List α} (hr : sep ∉ r)
    (hr' : sep ∉ r') (h : l ++ sep :: r = l' ++ sep :: r') : l = l' ∧ r = r' := by
  have hcut := congrArg (cutLast? sep) h
  rw [cutLast?_append_cons l hr, cutLast?_append_cons l' hr', Option.some.injEq,
    Prod.mk.injEq] at hcut
  exact hcut

end ContentServer.Text
