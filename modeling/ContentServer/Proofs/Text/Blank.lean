import ContentServer.Text.Basic
import Mathlib.Data.List.Basic
import Mathlib.Data.List.DropRight
import Mathlib.Data.List.Induction
import Mathlib.Data.List.TakeWhile

namespace ContentServer.Text

theorem rdropWhile_append_of_forall {α : Type} {p : α → Bool} (l : List α) {dropped : List α}
    (h : ∀ a ∈ dropped, p a) : (l ++ dropped).rdropWhile p = l.rdropWhile p := by
  induction dropped using List.reverseRecOn with
  | nil => rw [List.append_nil]
  | append_singleton dropped a ih =>
    have ha : p a := h a (List.mem_append_right _ (List.mem_singleton.mpr rfl))
    rw [← List.append_assoc, List.rdropWhile_concat_pos p _ a ha]
    exact ih fun b hb => h b (List.mem_append_left _ hb)

theorem trimBy_eq {α : Type} (p : α → Bool) (l : List α) :
    trimBy p l = (l.dropWhile p).rdropWhile p := rfl

theorem trimEnd_eq (cs : List Char) : trimEnd cs = cs.rdropWhile isBlank := rfl

theorem trimBy_eq_self {α : Type} {p : α → Bool} {l : List α} (hhead : ∀ a ∈ l.head?, ¬ p a)
    (hlast : ∀ a ∈ l.getLast?, ¬ p a) : trimBy p l = l := by
  have hdrop : l.dropWhile p = l := by
    cases l with
    | nil => rfl
    | cons a l => exact List.dropWhile_cons_of_neg (hhead a rfl)
  rw [trimBy_eq, hdrop, List.rdropWhile_eq_self_iff]
  exact fun hne => hlast _ (List.getLast?_eq_some_getLast hne)

theorem trimBy_append_of_forall {α : Type} {p : α → Bool} (l : List α) {dropped : List α}
    (h : ∀ a ∈ dropped, p a) : trimBy p (l ++ dropped) = trimBy p l := by
  rw [trimBy_eq, List.dropWhile_append, trimBy_eq]
  split
  · next hnone =>
    rw [List.isEmpty_iff.mp hnone, List.dropWhile_eq_nil_iff.mpr h]
  · exact rdropWhile_append_of_forall _ h

theorem exists_trimBy {α : Type} (p : α → Bool) (l : List α) :
    ∃ before after, l = before ++ trimBy p l ++ after ∧ (∀ a ∈ before, p a) ∧ ∀ a ∈ after, p a := by
  refine ⟨l.takeWhile p, (l.dropWhile p).rtakeWhile p, ?_, fun a => List.mem_takeWhile_imp,
    fun a => List.mem_rtakeWhile_imp⟩
  rw [trimBy_eq, List.append_assoc, List.rdropWhile_append_rtakeWhile,
    List.takeWhile_append_dropWhile]

theorem trimBy_isInfix {α : Type} (p : α → Bool) (l : List α) : trimBy p l <:+: l := by
  obtain ⟨before, after, hl, -⟩ := exists_trimBy p l
  exact ⟨before, after, hl.symm⟩

theorem head?_trimBy {α : Type} (p : α → Bool) (l : List α) : ∀ a ∈ (trimBy p l).head?, ¬ p a := by
  intro a ha
  obtain ⟨rest, hrest⟩ := List.head?_eq_some_iff.mp ha
  have hdrop := List.head?_dropWhile_not p l
  rw [← List.rdropWhile_append_rtakeWhile (p := p) (l := l.dropWhile p), ← trimBy_eq, hrest,
    List.cons_append, List.head?_cons] at hdrop
  simpa using hdrop

theorem getLast?_trimBy {α : Type} (p : α → Bool) (l : List α) :
    ∀ a ∈ (trimBy p l).getLast?, ¬ p a := by
  intro a ha
  obtain ⟨hne, rfl⟩ := List.mem_getLast?_eq_getLast ha
  exact List.rdropWhile_last_not p (l.dropWhile p) hne

theorem trimBy_trimBy {α : Type} (p : α → Bool) (l : List α) : trimBy p (trimBy p l) = trimBy p l :=
  trimBy_eq_self (head?_trimBy p l) (getLast?_trimBy p l)

theorem trimBy_eq_nil_iff {α : Type} {p : α → Bool} {l : List α} :
    trimBy p l = [] ↔ ∀ a ∈ l, p a := by
  obtain ⟨before, after, hl, hbefore, hafter⟩ := exists_trimBy p l
  constructor
  · intro hnil a ha
    rw [hl, hnil, List.append_nil] at ha
    exact (List.mem_append.mp ha).elim (hbefore a) (hafter a)
  · intro hall
    rw [trimBy_eq, List.dropWhile_eq_nil_iff.mpr hall, List.rdropWhile_nil]

/-- A text that begins and ends with a character that is not blank. -/
structure IsTrimmed (text : List Char) : Prop where
  head : ∃ c, text.head? = some c ∧ ¬ isBlank c
  last : ∃ c, text.getLast? = some c ∧ ¬ isBlank c

namespace IsTrimmed

variable {text : List Char}

theorem ne_nil (h : IsTrimmed text) : text ≠ [] := by
  obtain ⟨c, hc, -⟩ := h.head
  rintro rfl
  cases hc

theorem trim_eq (h : IsTrimmed text) : trim text = text := by
  obtain ⟨c, hc, hhead⟩ := h.head
  obtain ⟨d, hd, hlast⟩ := h.last
  refine trimBy_eq_self (fun a ha => ?_) fun a ha => ?_
  · obtain rfl := Option.some.inj (hc.symm.trans ha)
    exact hhead
  · obtain rfl := Option.some.inj (hd.symm.trans ha)
    exact hlast

theorem of_forall (hne : text ≠ []) (h : ∀ c ∈ text, ¬ isBlank c) : IsTrimmed text :=
  ⟨⟨text.head hne, List.head?_eq_some_head hne, h _ (List.head_mem hne)⟩,
    ⟨text.getLast hne, List.getLast?_eq_some_getLast hne, h _ (List.getLast_mem hne)⟩⟩

theorem intercalate (sep : Char) {texts : List (List Char)} (hne : texts ≠ [])
    (h : ∀ text ∈ texts, IsTrimmed text) : IsTrimmed ([sep].intercalate texts) := by
  induction texts with
  | nil => exact absurd rfl hne
  | cons first texts ih =>
    have hfirst := h first List.mem_cons_self
    cases texts with
    | nil => rwa [List.intercalate_singleton]
    | cons next texts =>
      have hrest :=
        ih (List.cons_ne_nil next texts) fun text ht => h text (List.mem_cons_of_mem _ ht)
      rw [List.intercalate_cons_cons, List.append_assoc]
      refine ⟨?_, ?_⟩
      · rw [List.head?_append_of_ne_nil _ hfirst.ne_nil]
        exact hfirst.head
      · rw [List.getLast?_append_of_ne_nil _ (by simp), List.singleton_append,
          List.getLast?_cons_of_ne_nil hrest.ne_nil]
        exact hrest.last

end IsTrimmed

theorem trimEnd_append_of_blank (text : List Char) {blanks : List Char}
    (h : ∀ c ∈ blanks, isBlank c) : trimEnd (text ++ blanks) = trimEnd text :=
  rdropWhile_append_of_forall text h

theorem trimEnd_append_cases (text more : List Char) :
    trimEnd (text ++ more) = trimEnd text ∨
      ∃ kept, trimEnd (text ++ more) = text ++ kept ∧ kept ≠ [] ∧ kept <+: more := by
  induction more using List.reverseRecOn with
  | nil => exact .inl (by rw [List.append_nil])
  | append_singleton more c ih =>
    rw [← List.append_assoc, trimEnd_eq, List.rdropWhile_concat]
    by_cases hc : isBlank c
    · rw [if_pos hc, ← trimEnd_eq]
      refine ih.imp_right fun ⟨kept, htrim, hne, hstart⟩ => ⟨kept, htrim, hne, ?_⟩
      exact hstart.trans (List.prefix_append more [c])
    · rw [if_neg hc]
      refine .inr ⟨more ++ [c], List.append_assoc .., ?_, List.prefix_rfl⟩
      exact List.append_ne_nil_of_right_ne_nil more (List.cons_ne_nil c [])

end ContentServer.Text
