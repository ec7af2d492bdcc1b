import ContentServer.Html
import ContentServer.Proofs.Text.Blank
import ContentServer.Proofs.Text.Word

namespace ContentServer.Html

/-- Text that neither begins nor ends with a newline, and has no two newlines side by side. -/
structure IsPiece (piece : List Char) : Prop where
  ne_nil : piece ≠ []
  head : piece.head? ≠ some '\n'
  last : piece.getLast? ≠ some '\n'
  whole : ¬ ['\n', '\n'] <:+: piece

def newlines (n : Nat) : List Char :=
  List.replicate n '\n'

def lay (pieces : List (List Char × Nat)) : List Char :=
  pieces.flatMap fun (piece, gap) => piece ++ newlines gap

/-- A markup in pieces: newlines first, then each piece with the newlines after it, of which there
are two or more before the next piece. -/
structure IsLayout (markup : List Char) (lead : Nat) (pieces : List (List Char × Nat)) : Prop where
  whole : newlines lead ++ lay pieces = markup
  isPiece : ∀ piece ∈ pieces.map (·.1), IsPiece piece
  gaps : ∀ gap ∈ (pieces.map (·.2)).dropLast, 2 ≤ gap

theorem newlines_succ (n : Nat) : newlines (n + 1) = '\n' :: newlines n := rfl

theorem eq_newline_of_mem {n : Nat} {c : Char} (h : c ∈ newlines n) : c = '\n' :=
  List.eq_of_mem_replicate h

theorem lay_cons (piece : List Char) (gap : Nat) (pieces : List (List Char × Nat)) :
    lay ((piece, gap) :: pieces) = piece ++ newlines gap ++ lay pieces := rfl

namespace IsPiece

variable {piece : List Char}

theorem single {c : Char} (h : c ≠ '\n') : IsPiece [c] where
  ne_nil := List.cons_ne_nil c []
  head := by simpa using h
  last := by simpa using h
  whole := by simp [List.infix_cons_iff]

theorem cons (hpiece : IsPiece piece) {c : Char} (h : c ≠ '\n') : IsPiece (c :: piece) := by
  refine ⟨List.cons_ne_nil c piece, by simpa using h, ?_, fun hin => ?_⟩
  · rw [List.getLast?_cons_of_ne_nil hpiece.ne_nil]
    exact hpiece.last
  · obtain ⟨rest, hrest⟩ | hin := List.infix_cons_iff.mp hin
    · exact h (List.cons.inj hrest).1.symm
    · exact hpiece.whole hin

theorem cons_newline (hpiece : IsPiece piece) {c : Char} (h : c ≠ '\n') :
    IsPiece (c :: '\n' :: piece) := by
  refine ⟨List.cons_ne_nil c _, by simpa using h, ?_, fun hin => ?_⟩
  · rw [List.getLast?_cons_cons, List.getLast?_cons_of_ne_nil hpiece.ne_nil]
    exact hpiece.last
  · obtain ⟨rest, hrest⟩ | hin := List.infix_cons_iff.mp hin
    · exact h (List.cons.inj hrest).1.symm
    · obtain ⟨rest, hrest⟩ | hin := List.infix_cons_iff.mp hin
      · obtain rfl := (List.cons.inj hrest).2
        exact hpiece.head rfl
      · exact hpiece.whole hin

theorem not_infix_concat (hpiece : IsPiece piece) : ¬ ['\n', '\n'] <:+: piece ++ ['\n'] := by
  intro hin
  obtain ⟨before, hbefore⟩ | hin := List.infix_concat_iff.mp hin
  · have hpieceEnd : before ++ ['\n'] = piece := by
      rw [← List.append_cancel_right_eq _ ['\n'], ← hbefore, List.append_assoc]
      rfl
    exact hpiece.last (List.getLast?_eq_some_iff.mpr ⟨before, hpieceEnd.symm⟩)
  · exact hpiece.whole hin

theorem trimBy_append_newlines (hpiece : IsPiece piece) (n : Nat) :
    Text.trimBy (· == '\n') (piece ++ newlines n) = piece := by
  rw [Text.trimBy_append_of_forall piece fun c hc => beq_iff_eq.mpr (eq_newline_of_mem hc)]
  refine Text.trimBy_eq_self (fun c hc hnewline => hpiece.head ?_) fun c hc hnewline => hpiece.last ?_
  · rwa [← beq_iff_eq.mp hnewline]
  · rwa [← beq_iff_eq.mp hnewline]

end IsPiece

namespace IsLayout

variable {markup piece : List Char} {lead gap : Nat} {pieces : List (List Char × Nat)}

theorem cons (h : IsLayout markup lead pieces) (hpiece : IsPiece piece)
    (hgap : pieces = [] ∨ 2 ≤ lead) :
    IsLayout (piece ++ markup) 0 ((piece, lead) :: pieces) := by
  refine ⟨?_, List.forall_mem_cons.mpr ⟨hpiece, h.isPiece⟩, ?_⟩
  · rw [lay_cons, List.append_assoc, h.whole]
    rfl
  · obtain rfl | hlead := hgap
    · exact nofun
    · by_cases hlast : pieces = []
      · subst hlast
        exact nofun
      · rw [List.map_cons, List.dropLast_cons_of_ne_nil (by simpa using hlast)]
        exact List.forall_mem_cons.mpr ⟨hlead, h.gaps⟩

theorem tail (h : IsLayout markup lead ((piece, gap) :: pieces)) :
    IsPiece piece ∧ (pieces = [] ∨ 2 ≤ gap) ∧ IsLayout (newlines gap ++ lay pieces) gap pieces := by
  obtain ⟨hpiece, hrest⟩ := List.forall_mem_cons.mp h.isPiece
  have hgaps := h.gaps
  by_cases hlast : pieces = []
  · subst hlast
    exact ⟨hpiece, .inl rfl, rfl, nofun, nofun⟩
  · rw [List.map_cons, List.dropLast_cons_of_ne_nil (by simpa using hlast)] at hgaps
    obtain ⟨hgap, hgaps⟩ := List.forall_mem_cons.mp hgaps
    exact ⟨hpiece, .inr hgap, rfl, hrest, hgaps⟩

end IsLayout

/-- Every markup can be laid out. A character before a layout is a piece of its own, or goes to the
first piece if there is at most one newline between them. -/
theorem exists_layout (markup : List Char) : ∃ lead pieces, IsLayout markup lead pieces := by
  induction markup with
  | nil => exact ⟨0, [], rfl, nofun, nofun⟩
  | cons c markup ih =>
    obtain ⟨lead, pieces, h⟩ := ih
    by_cases hc : c = '\n'
    · subst hc
      exact ⟨lead + 1, pieces, congrArg ('\n' :: ·) h.whole, h.isPiece, h.gaps⟩
    · match lead, pieces, h with
      | lead, [], h => exact ⟨0, _, h.cons (.single hc) (.inl rfl)⟩
      | lead + 2, _, h => exact ⟨0, _, h.cons (.single hc) (.inr (Nat.le_add_left 2 lead))⟩
      | 0, (piece, gap) :: pieces, h =>
        obtain ⟨hpiece, hgap, hrest⟩ := h.tail
        have hmarkup : c :: piece ++ (newlines gap ++ lay pieces) = c :: markup := by
          rw [← h.whole, lay_cons, List.cons_append, List.append_assoc]
          rfl
        exact ⟨0, _, hmarkup ▸ hrest.cons (hpiece.cons hc) hgap⟩
      | 1, (piece, gap) :: pieces, h =>
        obtain ⟨hpiece, hgap, hrest⟩ := h.tail
        have hmarkup : c :: '\n' :: piece ++ (newlines gap ++ lay pieces) = c :: markup := by
          rw [← h.whole, lay_cons, List.cons_append, List.cons_append, List.append_assoc]
          rfl
        exact ⟨0, _, hmarkup ▸ hrest.cons (hpiece.cons_newline hc) hgap⟩

def hasText (piece : List Char) : Bool :=
  piece.any (! Text.isBlank ·)

theorem hasText_eq_false_iff {piece : List Char} :
    hasText piece = false ↔ ∀ c ∈ piece, Text.isBlank c := by
  simp [hasText]

theorem not_isEmpty_trim (piece : List Char) : (! (Text.trim piece).isEmpty) = hasText piece := by
  rw [Bool.eq_iff_iff, ← not_iff_not, Bool.not_eq_true, Bool.not_eq_true, hasText_eq_false_iff,
    Bool.not_eq_false', List.isEmpty_iff]
  exact Text.trimBy_eq_nil_iff

theorem blocks_eq (markup : List Char) :
    blocks markup =
      ((Text.splitWord ['\n', '\n'] markup).map (Text.trimBy (· == '\n'))).filter hasText :=
  List.filter_congr fun piece _ => not_isEmpty_trim piece

theorem blank_line_ne_nil : ['\n', '\n'] ≠ [] := List.cons_ne_nil _ _

theorem blocks_blank_line_append (markup : List Char) :
    blocks (['\n', '\n'] ++ markup) = blocks markup := by
  rw [blocks_eq, Text.splitWord_append_self blank_line_ne_nil, List.map_cons,
    List.filter_cons_of_neg (by decide), ← blocks_eq]

/-- A newline before a markup moves the cuts, but not what is left after trimming. -/
theorem blocks_newline_cons (markup : List Char) : blocks ('\n' :: markup) = blocks markup := by
  induction markup with
  | nil => rfl
  | cons c markup ih =>
    by_cases hc : c = '\n'
    · subst hc
      exact (blocks_blank_line_append markup).trans ih.symm
    · have hnot : ¬ ['\n', '\n'] <+: '\n' :: c :: markup := by
        rintro ⟨rest, hrest⟩
        exact hc (List.cons.inj (List.cons.inj hrest).2).1.symm
      obtain ⟨first, others, hsplit⟩ :=
        List.exists_cons_of_ne_nil (Text.splitWord_ne_nil ['\n', '\n'] (c :: markup))
      have htrim : Text.trimBy (· == '\n') ('\n' :: first) = Text.trimBy (· == '\n') first := rfl
      rw [blocks_eq, Text.splitWord_cons_of_not_start hnot, blocks_eq, hsplit, List.modifyHead_cons,
        List.map_cons, htrim, List.map_cons]

theorem blocks_newlines_append (n : Nat) (markup : List Char) :
    blocks (newlines n ++ markup) = blocks markup := by
  induction n with
  | zero => rfl
  | succ n ih =>
    rw [newlines_succ, List.cons_append, blocks_newline_cons, ih]

theorem blocks_piece_append {piece tail : List Char} (hpiece : IsPiece piece)
    (htail : (∃ n ≤ 1, tail = newlines n) ∨ ['\n', '\n'] <+: tail) :
    blocks (piece ++ tail) = [piece].filter hasText ++ blocks tail := by
  obtain ⟨n, hn, rfl⟩ | ⟨rest, rfl⟩ := htail
  · have hnot : ¬ ['\n', '\n'] <:+: piece ++ newlines n := by
      intro hin
      have hstart : newlines n <+: ['\n'] := by
        obtain rfl | rfl := Nat.le_one_iff_eq_zero_or_eq_one.mp hn
        · exact List.nil_prefix
        · exact List.prefix_rfl
      have hin := hin.trans ((List.prefix_append_right_inj piece).mpr hstart).isInfix
      exact hpiece.not_infix_concat hin
    have hnone := blocks_newlines_append n []
    rw [List.append_nil] at hnone
    rw [hnone, blocks_eq, Text.splitWord_eq_singleton hnot, List.map_singleton,
      hpiece.trimBy_append_newlines]
    exact (List.append_nil _).symm
  · have hfirst := Text.firstAt_append blank_line_ne_nil hpiece.not_infix_concat rest
    have htrim := hpiece.trimBy_append_newlines 0
    rw [newlines, List.replicate_zero, List.append_nil] at htrim
    rw [← List.append_assoc, blocks_eq, Text.splitWord_append blank_line_ne_nil hfirst,
      List.map_cons, htrim, ← List.singleton_append, List.filter_append, ← blocks_eq,
      blocks_blank_line_append]

theorem blank_line_prefix_newlines {n : Nat} (h : 2 ≤ n) (rest : List Char) :
    ['\n', '\n'] <+: newlines n ++ rest := by
  obtain ⟨m, rfl⟩ := Nat.exists_eq_add_of_le' h
  exact ⟨newlines m ++ rest, rfl⟩

/-- The blocks of a layout are its pieces that have text. This holds before a blank line as well. -/
theorem blocks_lay_append {pieces : List (List Char × Nat)} {lead : Nat} {markup tail : List Char}
    (h : IsLayout markup lead pieces) (htail : tail = [] ∨ ['\n', '\n'] <+: tail) :
    blocks (lay pieces ++ tail) = (pieces.map (·.1)).filter hasText ++ blocks tail := by
  induction pieces generalizing lead markup with
  | nil => rfl
  | cons first pieces ih =>
    obtain ⟨piece, gap⟩ := first
    obtain ⟨hpiece, hgap, hrest⟩ := h.tail
    have hafter : (∃ n ≤ 1, newlines gap ++ (lay pieces ++ tail) = newlines n) ∨
        ['\n', '\n'] <+: newlines gap ++ (lay pieces ++ tail) := by
      by_cases hlarge : 2 ≤ gap
      · exact .inr (blank_line_prefix_newlines hlarge _)
      · obtain rfl := hgap.resolve_right hlarge
        obtain rfl | ⟨rest, rfl⟩ := htail
        · exact .inl ⟨gap, by omega, List.append_nil _⟩
        · have hrun :
              newlines gap ++ (lay [] ++ (['\n', '\n'] ++ rest)) = newlines (gap + 2) ++ rest := by
            rw [newlines, newlines, List.replicate_add, List.append_assoc]
            rfl
          exact .inr (hrun ▸ blank_line_prefix_newlines (Nat.le_add_left 2 gap) rest)
    rw [lay_cons, List.append_assoc, List.append_assoc, blocks_piece_append hpiece hafter,
      blocks_newlines_append, ih hrest, List.map_cons, ← List.append_assoc, ← List.filter_append]
    rfl

theorem blocks_layout {pieces : List (List Char × Nat)} {lead : Nat} {markup : List Char}
    (h : IsLayout markup lead pieces) : blocks markup = (pieces.map (·.1)).filter hasText := by
  have hblocks := blocks_lay_append h (.inl rfl)
  rw [List.append_nil] at hblocks
  rw [← h.whole, blocks_newlines_append, hblocks]
  exact List.append_nil _

theorem blocks_append (markup other : List Char) :
    blocks (markup ++ ['\n', '\n'] ++ other) = blocks markup ++ blocks other := by
  obtain ⟨lead, pieces, h⟩ := exists_layout markup
  rw [blocks_layout h, ← h.whole, List.append_assoc, List.append_assoc, blocks_newlines_append,
    blocks_lay_append h (.inr ⟨other, rfl⟩), blocks_blank_line_append]

theorem blocks_eq_nil_iff {markup : List Char} :
    blocks markup = [] ↔ ∀ c ∈ markup, Text.isBlank c := by
  obtain ⟨lead, pieces, h⟩ := exists_layout markup
  have hnewline {n : Nat} : ∀ c ∈ newlines n, Text.isBlank c := by
    intro c hc
    rw [eq_newline_of_mem hc]
    decide
  have hpieces :
      (∀ piece ∈ pieces.map (·.1), hasText piece = false) ↔ ∀ c ∈ lay pieces, Text.isBlank c := by
    rw [lay]
    simp only [List.forall_mem_map, hasText_eq_false_iff, List.forall_mem_flatMap,
      List.forall_mem_append]
    exact forall₂_congr fun piece _ => (and_iff_left hnewline).symm
  rw [blocks_layout h, List.filter_eq_nil_iff, ← h.whole, List.forall_mem_append, ← hpieces]
  simp only [Bool.not_eq_true]
  exact (and_iff_right hnewline).symm

theorem renderBlock_eq (block : List Char) :
    renderBlock block = if block.find? (! Text.isBlank ·) = some '<' then block
      else "<p>".toList ++ block ++ "</p>".toList := by
  rw [renderBlock, Text.trimStart, List.find?_not_eq_head?_dropWhile]
  rfl

theorem renderBlock_ne_nil (block : List Char) : renderBlock block ≠ [] := by
  rw [renderBlock]
  split
  · next htag =>
    rintro rfl
    cases htag
  · exact List.cons_ne_nil _ _

theorem toList_paragraphs (markup : String) :
    (paragraphs markup).toList = ['\n'].intercalate ((blocks markup.toList).map renderBlock) :=
  String.toList_ofList

theorem paragraphs_eq_empty_iff {markup : String} :
    paragraphs markup = "" ↔ blocks markup.toList = [] := by
  rw [← String.toList_eq_nil_iff, toList_paragraphs]
  cases blocks markup.toList with
  | nil => exact iff_of_true rfl rfl
  | cons block others =>
    refine iff_of_false (fun hnil => renderBlock_ne_nil block ?_) (List.cons_ne_nil block others)
    by_cases hlast : others.map renderBlock = []
    · rwa [List.map_cons, hlast, List.intercalate_singleton] at hnil
    · rw [List.map_cons, List.intercalate_cons_of_ne_nil hlast, List.append_assoc] at hnil
      exact (List.append_eq_nil_iff.mp hnil).1

/-- Paragraphs are made of the pieces of a markup between runs of two or more newlines, except those
of white space only. So they lose no text, and come apart at every blank line. -/
theorem paragraphs_layout (markup : String) :
    ((∃ lead pieces, IsLayout markup.toList lead pieces) ∧
      ∀ lead pieces, IsLayout markup.toList lead pieces →
        (paragraphs markup).toList =
          ['\n'].intercalate (((pieces.map (·.1)).filter hasText).map fun piece =>
            if piece.find? (! Text.isBlank ·) = some '<' then piece
            else "<p>".toList ++ piece ++ "</p>".toList)) ∧
    (paragraphs markup = "" ↔ ∀ c ∈ markup.toList, Text.isBlank c) ∧
    ∀ other : String, paragraphs (markup ++ "\n\n" ++ other) =
      if paragraphs markup = "" then paragraphs other
      else if paragraphs other = "" then paragraphs markup
      else paragraphs markup ++ "\n" ++ paragraphs other := by
  refine ⟨⟨exists_layout markup.toList, fun lead pieces h => ?_⟩,
    paragraphs_eq_empty_iff.trans blocks_eq_nil_iff, fun other => ?_⟩
  · rw [toList_paragraphs, blocks_layout h, funext renderBlock_eq]
  · have hblocks : blocks (markup ++ "\n\n" ++ other).toList =
        blocks markup.toList ++ blocks other.toList := by
      rw [String.toList_append, String.toList_append]
      exact blocks_append markup.toList other.toList
    rw [← String.toList_inj, toList_paragraphs, hblocks, List.map_append]
    split
    · next hempty =>
      rw [paragraphs_eq_empty_iff.mp hempty, toList_paragraphs]
      rfl
    · next hfirst =>
      split
      · next hempty =>
        rw [paragraphs_eq_empty_iff.mp hempty, toList_paragraphs, List.map_nil, List.append_nil]
      · next hsecond =>
        rw [paragraphs_eq_empty_iff] at hfirst hsecond
        rw [Text.intercalate_append (by simpa using hfirst) (by simpa using hsecond),
          String.toList_append, String.toList_append, toList_paragraphs, toList_paragraphs]
        rfl

end ContentServer.Html
