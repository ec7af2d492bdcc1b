import ContentServer.Text.Basic
import Mathlib.Data.List.Basic
import Mathlib.Data.List.Infix

namespace ContentServer.Text

variable {α : Type} {word l r piece : List α} {pieces : List (List α)}

def FirstAt (word l : List α) (n : Nat) : Prop :=
  word <+: l.drop n ∧ ∀ k < n, ¬ word <+: l.drop k

/-- Is each cut of the joined pieces at the first occurrence of `word` after the cut before it? -/
def Leftmost (word : List α) (pieces : List (List α)) : Prop :=
  ∀ piece rest, piece :: rest <:+ pieces → rest ≠ [] →
    FirstAt word (word.intercalate (piece :: rest)) piece.length

theorem firstAt_zero : FirstAt word l 0 ↔ word <+: l := by
  simp [FirstAt]

theorem firstAt_cons_succ {a : α} {n : Nat} :
    FirstAt word (a :: l) (n + 1) ↔ ¬ word <+: a :: l ∧ FirstAt word l n := by
  constructor
  · rintro ⟨hat, hbefore⟩
    exact ⟨hbefore 0 n.succ_pos, hat, fun k hk => hbefore (k + 1) (Nat.succ_lt_succ hk)⟩
  · rintro ⟨hhead, hat, hbefore⟩
    refine ⟨hat, fun k hk => ?_⟩
    cases k with
    | zero => exact hhead
    | succ k => exact hbefore k (Nat.lt_of_succ_lt_succ hk)

theorem exists_firstAt (h : word <:+: l) :
    ∃ piece r, l = piece ++ word ++ r ∧ FirstAt word l piece.length := by
  induction l with
  | nil =>
    obtain rfl := List.infix_nil.mp h
    exact ⟨[], [], rfl, firstAt_zero.mpr List.prefix_rfl⟩
  | cons a l ih =>
    by_cases hhead : word <+: a :: l
    · obtain ⟨r, hr⟩ := hhead
      exact ⟨[], r, hr.symm, firstAt_zero.mpr ⟨r, hr⟩⟩
    · obtain ⟨piece, r, hl, hfirst⟩ := ih ((List.infix_cons_iff.mp h).resolve_left hhead)
      refine ⟨a :: piece, r, by rw [hl]; rfl, ?_⟩
      exact firstAt_cons_succ.mpr ⟨hhead, hfirst⟩

/-- An occurrence that begins before `piece` ends would lie in `piece` and all but the end of the
word. -/
theorem firstAt_append (hword : word ≠ []) (h : ¬ word <:+: piece ++ word.dropLast) (r : List α) :
    FirstAt word (piece ++ word ++ r) piece.length := by
  refine ⟨⟨r, by simp⟩, fun k hk hat => h ?_⟩
  have hstart : (piece ++ word.dropLast).drop k <+: (piece ++ word ++ r).drop k := by
    refine List.IsPrefix.drop ?_ k
    rw [List.append_assoc]
    exact List.prefix_append_right_inj piece |>.mpr
      ((List.dropLast_prefix word).trans (List.prefix_append word r))
  have hlength : word.length ≤ ((piece ++ word.dropLast).drop k).length := by
    have := List.length_pos_of_ne_nil hword
    rw [List.length_drop, List.length_append, List.length_dropLast]
    omega
  have hin := List.prefix_of_prefix_length_le hat hstart hlength
  exact hin.isInfix.trans (List.drop_suffix k _).isInfix

theorem FirstAt.notIn_piece (hword : word ≠ []) (h : FirstAt word (piece ++ word ++ r) piece.length) :
    ¬ word <:+: piece := by
  rintro ⟨before, after, rfl⟩
  have hlength : before.length < (before ++ word ++ after).length := by
    have := List.length_pos_of_ne_nil hword
    simp only [List.length_append]
    omega
  refine h.2 before.length hlength ⟨after ++ word ++ r, ?_⟩
  simp

theorem FirstAt.getLast?_ne {a : α} {n : Nat}
    (h : FirstAt (List.replicate (n + 1) a) (piece ++ List.replicate (n + 1) a ++ r) piece.length) :
    piece.getLast? ≠ some a := by
  intro hlast
  obtain ⟨front, rfl⟩ := List.getLast?_eq_some_iff.mp hlast
  refine h.2 front.length (by simp) ⟨a :: r, ?_⟩
  have hrun : List.replicate (n + 1) a ++ [a] = [a] ++ List.replicate (n + 1) a := by
    rw [← List.replicate_succ', List.replicate_succ, List.singleton_append]
  rw [List.append_assoc, List.append_assoc, List.drop_left, ← List.append_assoc, ← hrun,
    List.append_assoc, List.singleton_append]

/-- A text without the word is one piece; any other goes on after the first occurrence. -/
@[elab_as_elim]
theorem cutInduction {motive : List α → Prop} (hword : word ≠ [])
    (last : ∀ l, ¬ word <:+: l → motive l)
    (cut : ∀ piece r, FirstAt word (piece ++ word ++ r) piece.length → motive r →
      motive (piece ++ word ++ r)) (l : List α) : motive l := by
  induction hn : l.length using Nat.strong_induction_on generalizing l with
  | _ n ih =>
    by_cases hin : word <:+: l
    · obtain ⟨piece, r, rfl, hfirst⟩ := exists_firstAt hin
      have hlength : r.length < n := by
        have := List.length_pos_of_ne_nil hword
        rw [← hn, List.length_append, List.length_append]
        omega
      exact cut piece r hfirst (ih r.length hlength r rfl)
    · exact last l hin

theorem intercalate_append {others : List (List α)} (hne : pieces ≠ []) (hothers : others ≠ []) :
    word.intercalate (pieces ++ others) =
      word.intercalate pieces ++ word ++ word.intercalate others := by
  induction pieces with
  | nil => exact absurd rfl hne
  | cons piece pieces ih =>
    rw [List.cons_append,
      List.intercalate_cons_of_ne_nil (List.append_ne_nil_of_right_ne_nil _ hothers)]
    by_cases hlast : pieces = []
    · subst hlast
      rw [List.nil_append, List.intercalate_singleton]
    · rw [ih hlast, List.intercalate_cons_of_ne_nil hlast]
      simp only [List.append_assoc]

theorem leftmost_singleton (word piece : List α) : Leftmost word [piece] := by
  intro first rest hend hne
  obtain heq | hend := List.suffix_cons_iff.mp hend
  · exact absurd (List.cons.inj heq).2 hne
  · exact absurd (List.suffix_nil.mp hend) (List.cons_ne_nil first rest)

theorem leftmost_cons (hne : pieces ≠ []) :
    Leftmost word (piece :: pieces) ↔
      FirstAt word (word.intercalate (piece :: pieces)) piece.length ∧ Leftmost word pieces := by
  constructor
  · intro h
    refine ⟨h piece pieces List.suffix_rfl hne, fun first rest hend => ?_⟩
    exact h first rest (hend.trans (List.suffix_cons piece pieces))
  · rintro ⟨hfirst, hrest⟩ first rest hend
    obtain heq | hend := List.suffix_cons_iff.mp hend
    · obtain ⟨rfl, rfl⟩ := List.cons.inj heq
      exact fun _ => hfirst
    · exact hrest first rest hend

theorem Leftmost.getLast?_ne {a : α} {n : Nat} (h : Leftmost (List.replicate (n + 1) a) pieces)
    (hpiece : piece ∈ pieces.dropLast) : piece.getLast? ≠ some a := by
  induction pieces with
  | nil => exact absurd hpiece List.not_mem_nil
  | cons first pieces ih =>
    by_cases hne : pieces = []
    · subst hne
      exact absurd hpiece List.not_mem_nil
    · obtain ⟨hfirst, hrest⟩ := (leftmost_cons hne).mp h
      rw [List.dropLast_cons_of_ne_nil hne] at hpiece
      obtain rfl | hpiece := List.mem_cons.mp hpiece
      · rw [List.intercalate_cons_of_ne_nil hne] at hfirst
        exact hfirst.getLast?_ne
      · exact ih hrest hpiece

variable [DecidableEq α]

theorem splitWordAux_eq (word : List α) (skip : Nat) (l : List α) :
    splitWordAux word skip l = splitWord word (l.drop skip) := by
  induction skip generalizing l with
  | zero => rfl
  | succ skip ih =>
    cases l with
    | nil => rfl
    | cons a l => exact ih l

theorem splitWord_ne_nil (word l : List α) : splitWord word l ≠ [] := by
  induction l with
  | nil => exact List.cons_ne_nil _ _
  | cons a l ih =>
    rw [splitWord, splitWordAux]
    split
    · exact List.cons_ne_nil _ _
    · rwa [ne_eq, List.modifyHead_eq_nil_iff]

theorem splitWord_cons_of_not_start {a : α} (h : ¬ word <+: a :: l) :
    splitWord word (a :: l) = (splitWord word l).modifyHead (a :: ·) := by
  rw [splitWord, splitWordAux, if_neg (by rwa [List.isPrefixOf_iff_prefix])]
  rfl

theorem splitWord_append_self (hword : word ≠ []) (r : List α) :
    splitWord word (word ++ r) = [] :: splitWord word r := by
  obtain ⟨a, rest, rfl⟩ := List.exists_cons_of_ne_nil hword
  have hhead : (a :: rest).isPrefixOf (a :: (rest ++ r)) = true :=
    List.isPrefixOf_iff_prefix.mpr (List.prefix_append (a :: rest) r)
  rw [List.cons_append, splitWord, splitWordAux, if_pos hhead, splitWordAux_eq, List.length_cons,
    Nat.add_sub_cancel, List.drop_left]

theorem splitWord_eq_singleton (h : ¬ word <:+: l) : splitWord word l = [l] := by
  induction l with
  | nil => rfl
  | cons a l ih =>
    rw [List.infix_cons_iff, not_or] at h
    rw [splitWord_cons_of_not_start h.1, ih h.2, List.modifyHead_cons]

theorem splitWord_append (hword : word ≠ [])
    (h : FirstAt word (piece ++ word ++ r) piece.length) :
    splitWord word (piece ++ word ++ r) = piece :: splitWord word r := by
  induction piece with
  | nil => exact splitWord_append_self hword r
  | cons a piece ih =>
    rw [List.cons_append, List.cons_append] at h ⊢
    obtain ⟨hhead, hfirst⟩ := firstAt_cons_succ.mp h
    rw [splitWord_cons_of_not_start hhead, ih hfirst, List.modifyHead_cons]

theorem intercalate_splitWord (hword : word ≠ []) (l : List α) :
    word.intercalate (splitWord word l) = l := by
  induction l using cutInduction hword with
  | last l h => rw [splitWord_eq_singleton h, List.intercalate_singleton]
  | cut piece r h ih =>
    rw [splitWord_append hword h, List.intercalate_cons_of_ne_nil (splitWord_ne_nil word r), ih]

theorem not_infix_of_mem_splitWord (hword : word ≠ []) (h : piece ∈ splitWord word l) :
    ¬ word <:+: piece := by
  induction l using cutInduction hword with
  | last l hl =>
    rw [splitWord_eq_singleton hl] at h
    rwa [List.mem_singleton.mp h]
  | cut first r hfirst ih =>
    rw [splitWord_append hword hfirst] at h
    obtain rfl | h := List.mem_cons.mp h
    · exact hfirst.notIn_piece hword
    · exact ih h

theorem leftmost_splitWord (hword : word ≠ []) (l : List α) : Leftmost word (splitWord word l) := by
  induction l using cutInduction hword with
  | last l h =>
    rw [splitWord_eq_singleton h]
    exact leftmost_singleton word l
  | cut piece r h ih =>
    rw [splitWord_append hword h, leftmost_cons (splitWord_ne_nil word r),
      List.intercalate_cons_of_ne_nil (splitWord_ne_nil word r), intercalate_splitWord hword]
    exact ⟨h, ih⟩

/-- Pieces without the word whose cuts are leftmost are those that `splitWord` finds. -/
theorem splitWord_intercalate (hword : word ≠ []) (hne : pieces ≠ [])
    (hfree : ∀ piece ∈ pieces, ¬ word <:+: piece) (hleft : Leftmost word pieces) :
    splitWord word (word.intercalate pieces) = pieces := by
  induction pieces with
  | nil => exact absurd rfl hne
  | cons piece pieces ih =>
    by_cases hlast : pieces = []
    · subst hlast
      rw [List.intercalate_singleton]
      exact splitWord_eq_singleton (hfree piece List.mem_cons_self)
    · obtain ⟨hfirst, hrest⟩ := (leftmost_cons hlast).mp hleft
      have htail := ih hlast (fun p hp => hfree p (List.mem_cons_of_mem piece hp)) hrest
      rw [List.intercalate_cons_of_ne_nil hlast] at hfirst ⊢
      rw [splitWord_append hword hfirst, htail]

end ContentServer.Text
