namespace ContentServer.Text

/-- The characters of the Unicode property `White_Space`. -/
def isBlank (c : Char) : Bool :=
  let n := c.toNat
  (9 ≤ n && n ≤ 13) || n == 0x20 || n == 0x85 || n == 0xA0 || n == 0x1680 ||
    (0x2000 ≤ n && n ≤ 0x200A) || n == 0x2028 || n == 0x2029 || n == 0x202F || n == 0x205F ||
    n == 0x3000

def trimBy {α : Type} (p : α → Bool) (l : List α) : List α :=
  ((l.dropWhile p).reverse.dropWhile p).reverse

def trimStart (cs : List Char) : List Char :=
  cs.dropWhile isBlank

def trimEnd (cs : List Char) : List Char :=
  (cs.reverse.dropWhile isBlank).reverse

def trim (cs : List Char) : List Char :=
  trimBy isBlank cs

def lift (f : List Char → List Char) (s : String) : String :=
  String.ofList (f s.toList)

variable {α : Type} [DecidableEq α]

def splitWordAux (word : List α) : Nat → List α → List (List α)
  | _, [] => [[]]
  | skip + 1, _ :: l => splitWordAux word skip l
  | 0, a :: l =>
    if word.isPrefixOf (a :: l) then [] :: splitWordAux word (word.length - 1) l
    else (splitWordAux word 0 l).modifyHead (a :: ·)

/-- The pieces between the leftmost occurrences of `word` that do not overlap. -/
def splitWord (word : List α) (l : List α) : List (List α) :=
  splitWordAux word 0 l

def cutFirst? (sep : α) : List α → Option (List α × List α)
  | [] => none
  | a :: l =>
    if a = sep then some ([], l) else (cutFirst? sep l).map fun (before, after) => (a :: before, after)

def cutLast? (sep : α) : List α → Option (List α × List α)
  | [] => none
  | a :: l =>
    match cutLast? sep l with
    | some (before, after) => some (a :: before, after)
    | none => if a = sep then some ([], l) else none

theorem splitOn_cons_self (sep : α) (l : List α) : (sep :: l).splitOn sep = [] :: l.splitOn sep :=
  List.splitOn_append_cons_self_of_not_mem List.not_mem_nil l

theorem splitOn_cons_of_ne {sep a : α} (h : a ≠ sep) (l : List α) :
    (a :: l).splitOn sep = (l.splitOn sep).modifyHead (a :: ·) := by
  rw [List.splitOn_cons_eq_if_modifyHead, if_neg (by simpa using h)]

theorem notMem_of_mem_splitOn {sep : α} {l piece : List α} (h : piece ∈ l.splitOn sep) :
    sep ∉ piece := by
  induction l generalizing piece with
  | nil => simp [List.mem_singleton.mp h]
  | cons a l ih =>
    by_cases ha : a = sep
    · rw [ha, splitOn_cons_self] at h
      obtain rfl | h := List.mem_cons.mp h
      · exact List.not_mem_nil
      · exact ih h
    · obtain ⟨first, others, hs⟩ := List.exists_cons_of_ne_nil (List.splitOn_ne_nil sep l)
      rw [splitOn_cons_of_ne ha, hs, List.modifyHead_cons] at h
      obtain rfl | h := List.mem_cons.mp h
      · exact List.not_mem_cons_of_ne_of_not_mem (Ne.symm ha) (ih (hs ▸ List.mem_cons_self))
      · exact ih (hs ▸ List.mem_cons_of_mem _ h)

theorem cutFirst?_eq_some {sep : α} {l before after : List α}
    (h : cutFirst? sep l = some (before, after)) : l = before ++ sep :: after := by
  induction l generalizing before with
  | nil => simp [cutFirst?] at h
  | cons a l ih =>
    rw [cutFirst?] at h
    split at h
    · next ha =>
      simp only [Option.some.injEq, Prod.mk.injEq] at h
      obtain ⟨rfl, rfl⟩ := h
      simp [ha]
    · obtain ⟨⟨b, c⟩, hr, he⟩ := Option.map_eq_some_iff.mp h
      simp only [Prod.mk.injEq] at he
      obtain ⟨rfl, rfl⟩ := he
      simp [ih hr]

theorem length_cutFirst?_lt {sep : α} {l before after : List α}
    (h : cutFirst? sep l = some (before, after)) : after.length < l.length := by
  rw [cutFirst?_eq_some h, List.length_append, List.length_cons]
  omega

theorem cutLast?_eq_some {sep : α} {l before after : List α}
    (h : cutLast? sep l = some (before, after)) : l = before ++ sep :: after := by
  induction l generalizing before with
  | nil => simp [cutLast?] at h
  | cons a l ih =>
    rw [cutLast?] at h
    split at h
    · next b c hr =>
      simp only [Option.some.injEq, Prod.mk.injEq] at h
      obtain ⟨rfl, rfl⟩ := h
      simp [ih hr]
    · split at h
      · next ha =>
        simp only [Option.some.injEq, Prod.mk.injEq] at h
        obtain ⟨rfl, rfl⟩ := h
        simp [ha]
      · simp at h

end ContentServer.Text
