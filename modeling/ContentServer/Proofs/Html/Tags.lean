import ContentServer.Proofs.Html.Escape
import ContentServer.Proofs.Text.Split

namespace ContentServer.Html

def occurrences (word : List Char) : List Char → Nat
  | [] => 0
  | c :: text => (if word.isPrefixOf (c :: text) then 1 else 0) + occurrences word text

def tag (name : List Char) : List Char :=
  '<' :: name ++ ['>']

def Plain (text : List Char) : Prop :=
  '<' ∉ text ∧ '>' ∉ text

instance (text : List Char) : Decidable (Plain text) :=
  inferInstanceAs (Decidable (_ ∧ _))

/-- Text in which every opening bracket begins a tag. -/
inductive Whole : List Char → Prop
  | nil : Whole []
  | char {c : Char} {text : List Char} (hc : c ≠ '<') (htext : Whole text) : Whole (c :: text)
  | tag {name text : List Char} (hname : Plain name) (htext : Whole text) : Whole (tag name ++ text)

theorem Plain.whole {text : List Char} (h : Plain text) : Whole text := by
  induction text with
  | nil => exact .nil
  | cons c text ih =>
    simp only [Plain, List.mem_cons, not_or] at h
    exact .char (Ne.symm h.1.1) (ih ⟨h.1.2, h.2.2⟩)

theorem Whole.append {text rest : List Char} (h : Whole text) (hrest : Whole rest) :
    Whole (text ++ rest) := by
  induction h with
  | nil => exact hrest
  | char hc _ ih => exact .char hc ih
  | tag hname _ ih => rw [List.append_assoc]; exact .tag hname ih

theorem Whole.of_append_open {text rest : List Char} (h : Whole (text ++ '<' :: rest)) :
    Whole text := by
  generalize hall : text ++ '<' :: rest = all at h
  induction h generalizing text with
  | nil => exact absurd hall (by simp)
  | char hc _ ih =>
    cases text with
    | nil => exact .nil
    | cons c text =>
      obtain ⟨rfl, htail⟩ := List.cons.inj hall
      exact .char hc (ih htail)
  | @tag name inner hname _ ih =>
    cases text with
    | nil => exact .nil
    | cons c text =>
      -- the bracket cannot stand inside the tag, so the tag is part of `text`
      rw [Html.tag, List.append_assoc, List.cons_append, List.cons_append] at hall
      obtain ⟨rfl, htail⟩ := List.cons.inj hall
      obtain ⟨middle, hm, hr⟩ | ⟨middle, hm, hr⟩ := List.append_eq_append_iff.mp htail
      · cases middle with
        | nil => simp at hr
        | cons d middle =>
          obtain ⟨rfl, -⟩ := List.cons.inj hr
          exact absurd (hm ▸ List.mem_append_right _ List.mem_cons_self) hname.1
      · cases middle with
        | nil => simp at hr
        | cons d middle =>
          obtain ⟨rfl, htext⟩ := List.cons.inj hr
          subst hm
          have hwhole := Whole.tag hname (ih htext.symm)
          simpa [Html.tag] using hwhole

theorem occurrences_cons_of_ne {name : List Char} {c : Char} (h : c ≠ '<') (text : List Char) :
    occurrences (tag name) (c :: text) = occurrences (tag name) text := by
  have hhead : ('<' == c) = false := by simpa using Ne.symm h
  simp [occurrences, tag, List.isPrefixOf, hhead]

theorem occurrences_append_of_notMem {name skipped : List Char} (h : '<' ∉ skipped)
    (text : List Char) :
    occurrences (tag name) (skipped ++ text) = occurrences (tag name) text := by
  induction skipped with
  | nil => rfl
  | cons c skipped ih =>
    simp only [List.mem_cons, not_or] at h
    rw [List.cons_append, occurrences_cons_of_ne (Ne.symm h.1), ih h.2]

theorem tag_isPrefixOf_tag {name other : List Char} (hname : Plain name) (hother : Plain other)
    (text : List Char) : (tag name).isPrefixOf (tag other ++ text) = decide (other = name) := by
  rw [Bool.eq_iff_iff, List.isPrefixOf_iff_prefix, decide_eq_true_eq]
  constructor
  · rintro ⟨rest, hrest⟩
    simp only [tag, List.cons_append, List.append_assoc, List.cons.injEq, true_and] at hrest
    exact (Text.append_cons_inj_of_notMem_left hother.2 hname.2 hrest.symm).1
  · rintro rfl
    exact List.prefix_append _ _

theorem occurrences_tag_append {name other : List Char} (hname : Plain name) (hother : Plain other)
    (text : List Char) :
    occurrences (tag name) (tag other ++ text) =
      (if other = name then 1 else 0) + occurrences (tag name) text := by
  have hrest : occurrences (tag name) (other ++ ['>'] ++ text) = occurrences (tag name) text := by
    refine occurrences_append_of_notMem ?_ text
    simpa using hother.1
  have hhead := tag_isPrefixOf_tag hname hother text
  rw [tag.eq_1 other, List.cons_append, List.cons_append] at hhead ⊢
  rw [occurrences, hrest, hhead]
  simp only [decide_eq_true_eq]

theorem occurrences_append {name text : List Char} (hname : Plain name) (h : Whole text)
    (rest : List Char) :
    occurrences (tag name) (text ++ rest) =
      occurrences (tag name) text + occurrences (tag name) rest := by
  induction h with
  | nil => rw [List.nil_append, occurrences, Nat.zero_add]
  | char hc _ ih => rw [List.cons_append, occurrences_cons_of_ne hc, occurrences_cons_of_ne hc, ih]
  | tag hother _ ih =>
    rw [List.append_assoc, occurrences_tag_append hname hother, occurrences_tag_append hname hother,
      ih, Nat.add_assoc]

theorem occurrences_eq_zero {name text : List Char} (h : '<' ∉ text) :
    occurrences (tag name) text = 0 := by
  have hnil : occurrences (tag name) (text ++ []) = 0 := occurrences_append_of_notMem h []
  rwa [List.append_nil] at hnil

theorem Whole.of_tag_append {name rest : List Char} (hname : Plain name)
    (h : Whole (Html.tag name ++ rest)) : Whole rest := by
  generalize hall : Html.tag name ++ rest = all at h
  cases h with
  | nil => exact absurd hall (by simp [Html.tag])
  | char hc _ => exact absurd (List.cons.inj hall).1.symm hc
  | tag hother htext =>
    simp only [Html.tag, List.cons_append, List.append_assoc, List.cons.injEq, true_and] at hall
    obtain ⟨-, rfl⟩ := Text.append_cons_inj_of_notMem_left hname.2 hother.2 hall
    exact htext

def openings (text : List Char) : Nat :=
  occurrences openingParagraph text

def closings (text : List Char) : Nat :=
  occurrences closingParagraph text

/-- Texts that consist of complete paragraphs, with any newlines around them. -/
inductive Paragraphs : List Char → Prop
  | nil : Paragraphs []
  | newline {rest : List Char} (hrest : Paragraphs rest) : Paragraphs ('\n' :: rest)
  | paragraph {text rest : List Char} (htext : Plain text) (hrest : Paragraphs rest) :
      Paragraphs (openingParagraph ++ text ++ closingParagraph ++ rest)

theorem Paragraphs.single {text : List Char} (h : Plain text) :
    Paragraphs (openingParagraph ++ text ++ closingParagraph) := by
  have hparagraph := Paragraphs.paragraph h .nil
  rwa [List.append_nil] at hparagraph

/-- Whole text that closes as many paragraphs as it opens. -/
structure Balanced (text : List Char) : Prop where
  whole : Whole text
  counts : openings text = closings text

theorem openingParagraph_eq : openingParagraph = tag ['p'] := rfl

theorem closingParagraph_eq : closingParagraph = tag ['/', 'p'] := rfl

theorem plain_opening : Plain ['p'] := by decide

theorem plain_closing : Plain ['/', 'p'] := by decide

theorem whole_tag {name : List Char} (h : Plain name) : Whole (tag name) := by
  have htag := Whole.tag h .nil
  rwa [List.append_nil] at htag

theorem openings_append {text : List Char} (h : Whole text) (rest : List Char) :
    openings (text ++ rest) = openings text + openings rest :=
  occurrences_append plain_opening h rest

theorem closings_append {text : List Char} (h : Whole text) (rest : List Char) :
    closings (text ++ rest) = closings text + closings rest :=
  occurrences_append plain_closing h rest

theorem openings_tag_append {name : List Char} (h : Plain name) (rest : List Char) :
    openings (tag name ++ rest) = (if name = ['p'] then 1 else 0) + openings rest :=
  occurrences_tag_append plain_opening h rest

theorem closings_tag_append {name : List Char} (h : Plain name) (rest : List Char) :
    closings (tag name ++ rest) = (if name = ['/', 'p'] then 1 else 0) + closings rest :=
  occurrences_tag_append plain_closing h rest

theorem openings_eq_zero {text : List Char} (h : '<' ∉ text) : openings text = 0 := by
  rw [openings, openingParagraph_eq, occurrences_eq_zero h]

theorem closings_eq_zero {text : List Char} (h : '<' ∉ text) : closings text = 0 := by
  rw [closings, closingParagraph_eq, occurrences_eq_zero h]

theorem balanced_tag {name : List Char} (h : Plain name) (hopen : name ≠ ['p'])
    (hclose : name ≠ ['/', 'p']) : Balanced (tag name) := by
  have hopenings := openings_tag_append h []
  have hclosings := closings_tag_append h []
  rw [List.append_nil, if_neg hopen] at hopenings
  rw [List.append_nil, if_neg hclose] at hclosings
  exact ⟨whole_tag h, hopenings.trans hclosings.symm⟩

theorem Plain.balanced {text : List Char} (h : Plain text) : Balanced text :=
  ⟨h.whole, (openings_eq_zero h.1).trans (closings_eq_zero h.1).symm⟩

theorem Balanced.append {text rest : List Char} (h : Balanced text) (hrest : Balanced rest) :
    Balanced (text ++ rest) := by
  refine ⟨h.whole.append hrest.whole, ?_⟩
  rw [openings_append h.whole, closings_append h.whole, h.counts, hrest.counts]

theorem Paragraphs.balanced {text : List Char} (h : Paragraphs text) : Balanced text := by
  induction h with
  | nil => exact ⟨.nil, rfl⟩
  | newline _ ih =>
    have hnewline : Plain ['\n'] := by decide
    exact hnewline.balanced.append ih
  | @paragraph inner rest hinner _ ih =>
    refine Balanced.append ⟨?_, ?_⟩ ih
    · exact ((whole_tag plain_opening).append hinner.whole).append (whole_tag plain_closing)
    · rw [List.append_assoc, openingParagraph_eq, closingParagraph_eq,
        openings_tag_append plain_opening, closings_tag_append plain_opening,
        openings_append hinner.whole, closings_append hinner.whole, openings_eq_zero hinner.1,
        closings_eq_zero hinner.1]
      rfl

theorem Balanced.of_opening_append {rest : List Char} (h : Balanced (openingParagraph ++ rest)) :
    Whole rest ∧ openings rest + 1 = closings rest := by
  obtain ⟨hwhole, hcounts⟩ := h
  rw [openingParagraph_eq] at hwhole hcounts
  rw [openings_tag_append plain_opening, closings_tag_append plain_opening] at hcounts
  refine ⟨hwhole.of_tag_append plain_opening, ?_⟩
  rw [if_pos rfl, if_neg (by decide)] at hcounts
  omega

/-- Taking the closing tag off the end of a text, and the blanks after it, costs one closing. -/
theorem Whole.of_append_closing {stem blanks : List Char} (hblanks : '<' ∉ blanks)
    (h : Whole (stem ++ closingParagraph ++ blanks)) :
    Whole stem ∧ openings (stem ++ closingParagraph ++ blanks) = openings stem ∧
      closings (stem ++ closingParagraph ++ blanks) = closings stem + 1 := by
  rw [closingParagraph_eq, List.append_assoc] at h ⊢
  have hstem : Whole stem := h.of_append_open
  rw [openings_append hstem, closings_append hstem, openings_tag_append plain_closing,
    closings_tag_append plain_closing, openings_eq_zero hblanks, closings_eq_zero hblanks]
  exact ⟨hstem, rfl, rfl⟩

theorem plain_escape (text : String) : Plain (escape text).toList :=
  ⟨notMem_escape (by decide) text, notMem_escape (by decide) text⟩

end ContentServer.Html
