import ContentServer.Html

namespace ContentServer.Html

/-- Can the character begin or end a tag or a quoted attribute? -/
def isMark (c : Char) : Bool :=
  c == '<' || c == '>' || c == '"' || c == '\''

def marks (text : String) : List Char :=
  text.toList.filter isMark

@[simp] theorem marks_append (text more : String) :
    marks (text ++ more) = marks text ++ marks more := by
  rw [marks, String.toList_append, List.filter_append, marks, marks]

theorem marks_join (texts : List String) : marks (String.join texts) = texts.flatMap marks := by
  rw [marks, String.toList_join, List.filter_flatMap]
  rfl

def entities : List (List Char × Char) :=
  [("&amp;".toList, '&'), ("&lt;".toList, '<'), ("&gt;".toList, '>'), ("&quot;".toList, '"'),
    ("&#39;".toList, '\'')]

theorem escapeChar_entity : ∀ e ∈ entities, escapeChar e.2 = e.1 := by decide

theorem escapeChar_of_plain {c : Char} (hampersand : c ≠ '&') (hmark : ¬isMark c) :
    escapeChar c = [c] := by
  unfold escapeChar
  split
  · exact absurd rfl hampersand
  · exact absurd rfl hmark
  · exact absurd rfl hmark
  · exact absurd rfl hmark
  · exact absurd rfl hmark
  · rfl

theorem escapeChar_cases (c : Char) :
    (escapeChar c, c) ∈ entities ∨ c ≠ '&' ∧ ¬isMark c ∧ escapeChar c = [c] := by
  by_cases hampersand : c = '&'
  · subst hampersand
    exact .inl (by decide)
  by_cases hmark : isMark c
  · simp only [isMark, Bool.or_eq_true, beq_iff_eq] at hmark
    left
    obtain ((rfl | rfl) | rfl) | rfl := hmark <;> decide
  · exact .inr ⟨hampersand, hmark, escapeChar_of_plain hampersand hmark⟩

theorem escapeChar_ne_nil (c : Char) : escapeChar c ≠ [] := by
  have hentities : ∀ e ∈ entities, e.1 ≠ [] := by decide
  obtain hentity | ⟨_, _, hself⟩ := escapeChar_cases c
  · exact hentities _ hentity
  · rw [hself]
    exact List.cons_ne_nil c []

/-- A text without brackets and quotes in which each ampersand begins an entity. -/
structure IsEncoded (text : List Char) : Prop where
  unmarked : ∀ c ∈ text, ¬isMark c
  entity : ∀ rest, '&' :: rest <:+ text → ∃ e ∈ entities, e.1 <+: '&' :: rest

theorem isEncoded_nil : IsEncoded [] :=
  ⟨nofun, fun _ hrest => nomatch List.suffix_nil.mp hrest⟩

theorem isEncoded_cons {c : Char} {text : List Char} :
    IsEncoded (c :: text) ↔
      ¬isMark c ∧ (c = '&' → ∃ e ∈ entities, e.1 <+: c :: text) ∧ IsEncoded text := by
  constructor
  · rintro ⟨hmarks, hentity⟩
    obtain ⟨hc, htext⟩ := List.forall_mem_cons.mp hmarks
    refine ⟨hc, ?_, htext, fun rest hrest => hentity rest (hrest.trans (List.suffix_cons c text))⟩
    rintro rfl
    exact hentity text (List.suffix_refl _)
  · rintro ⟨hc, hhead, htext⟩
    refine ⟨List.forall_mem_cons.mpr ⟨hc, htext.unmarked⟩, fun rest hrest => ?_⟩
    obtain hwhole | hrest := List.suffix_cons_iff.mp hrest
    · obtain ⟨rfl, rfl⟩ := List.cons.inj hwhole
      exact hhead rfl
    · exact htext.entity rest hrest

theorem isEncoded_append_of_plain {plain : List Char} (hampersand : '&' ∉ plain)
    (hmarks : ∀ c ∈ plain, ¬isMark c) (text : List Char) :
    IsEncoded (plain ++ text) ↔ IsEncoded text := by
  induction plain with
  | nil => rfl
  | cons c plain ih =>
    obtain ⟨hne, hplain⟩ := List.ne_and_not_mem_of_not_mem_cons hampersand
    obtain ⟨hmark, hrest⟩ := List.forall_mem_cons.mp hmarks
    rw [List.cons_append, isEncoded_cons, ih hplain hrest]
    exact ⟨fun h => h.2.2, fun htext => ⟨hmark, fun hc => absurd hc.symm hne, htext⟩⟩

theorem isEncoded_entity_append {e : List Char × Char} (he : e ∈ entities) (text : List Char) :
    IsEncoded (e.1 ++ text) ↔ IsEncoded text := by
  have hnames :
      ∀ e ∈ entities, e.1 = '&' :: e.1.tail ∧ '&' ∉ e.1.tail ∧ e.1.tail.filter isMark = [] := by
    decide
  obtain ⟨hhead, hampersand, hmarks⟩ := hnames e he
  have hbegins : e.1 <+: e.1 ++ text := List.prefix_append e.1 text
  rw [hhead, List.cons_append] at hbegins ⊢
  rw [isEncoded_cons, isEncoded_append_of_plain hampersand (List.filter_eq_nil_iff.mp hmarks)]
  exact ⟨fun h => h.2.2, fun htext => ⟨by decide, fun _ => ⟨e, he, hhead ▸ hbegins⟩, htext⟩⟩

theorem isEncoded_escapeChar_append (c : Char) (text : List Char) :
    IsEncoded (escapeChar c ++ text) ↔ IsEncoded text := by
  obtain hentity | ⟨hampersand, hmark, hself⟩ := escapeChar_cases c
  · exact isEncoded_entity_append hentity text
  · have hnone : '&' ∉ [c] := fun hmem => hampersand (List.mem_singleton.mp hmem).symm
    rw [hself]
    exact isEncoded_append_of_plain hnone (List.forall_mem_singleton.mpr hmark) text

theorem IsEncoded.exists_escapeChar_append {c : Char} {text : List Char} (h : IsEncoded (c :: text)) :
    ∃ d rest, c :: text = escapeChar d ++ rest := by
  obtain ⟨hmark, hentity, -⟩ := isEncoded_cons.mp h
  by_cases hampersand : c = '&'
  · obtain ⟨e, he, rest, hrest⟩ := hentity hampersand
    exact ⟨e.2, rest, by rw [escapeChar_entity e he, hrest]⟩
  · exact ⟨c, text, by rw [escapeChar_of_plain hampersand hmark, List.singleton_append]⟩

/-- The encoded texts are those that escaping gives. -/
theorem isEncoded_iff {text : List Char} :
    IsEncoded text ↔ ∃ source : List Char, text = source.flatMap escapeChar := by
  constructor
  · intro h
    -- an entity is taken off as a whole, so the induction is on the length
    induction hlength : text.length using Nat.strongRecOn generalizing text with
    | ind n ih =>
      cases text with
      | nil => exact ⟨[], rfl⟩
      | cons c text =>
        obtain ⟨d, rest, hwhole⟩ := h.exists_escapeChar_append
        rw [hwhole] at h hlength ⊢
        have hshorter : rest.length < n := by
          have hpositive := List.length_pos_iff.mpr (escapeChar_ne_nil d)
          rw [List.length_append] at hlength
          omega
        obtain ⟨source, rfl⟩ :=
          ih rest.length hshorter ((isEncoded_escapeChar_append d rest).mp h) rfl
        exact ⟨d :: source, List.flatMap_cons.symm⟩
  · rintro ⟨source, rfl⟩
    induction source with
    | nil => exact isEncoded_nil
    | cons c source ih =>
      rw [List.flatMap_cons]
      exact (isEncoded_escapeChar_append c _).mpr ih

theorem toList_escape (text : String) : (escape text).toList = text.toList.flatMap escapeChar :=
  String.toList_ofList

theorem isEncoded_escape (text : String) : IsEncoded (escape text).toList :=
  isEncoded_iff.mpr ⟨text.toList, toList_escape text⟩

theorem notMem_escape {c : Char} (h : isMark c) (text : String) : c ∉ (escape text).toList :=
  fun hm => (isEncoded_escape text).unmarked c hm h

@[simp] theorem marks_escape (text : String) : marks (escape text) = [] :=
  List.filter_eq_nil_iff.mpr (isEncoded_escape text).unmarked

/-- Resolves the entities of the five special characters in one pass from the left. -/
def unescape : List Char → List Char
  | '&' :: 'a' :: 'm' :: 'p' :: ';' :: cs => '&' :: unescape cs
  | '&' :: 'l' :: 't' :: ';' :: cs => '<' :: unescape cs
  | '&' :: 'g' :: 't' :: ';' :: cs => '>' :: unescape cs
  | '&' :: 'q' :: 'u' :: 'o' :: 't' :: ';' :: cs => '"' :: unescape cs
  | '&' :: '#' :: '3' :: '9' :: ';' :: cs => '\'' :: unescape cs
  | c :: cs => c :: unescape cs
  | [] => []

theorem unescape_cons {c : Char} (h : c ≠ '&') (cs : List Char) :
    unescape (c :: cs) = c :: unescape cs := by
  rw [unescape]
  all_goals
    rintro _ rfl
    exact absurd rfl h

theorem unescape_entity_append (cs : List Char) :
    ∀ e ∈ entities, unescape (e.1 ++ cs) = e.2 :: unescape cs := by
  simp only [entities, List.forall_mem_cons]
  exact ⟨rfl, rfl, rfl, rfl, rfl, nofun⟩

theorem unescape_escapeChar_append (c : Char) (cs : List Char) :
    unescape (escapeChar c ++ cs) = c :: unescape cs := by
  obtain hentity | ⟨hampersand, _, hself⟩ := escapeChar_cases c
  · exact unescape_entity_append cs _ hentity
  · rw [hself]
    exact unescape_cons hampersand cs

theorem unescape_flatMap (source : List Char) : unescape (source.flatMap escapeChar) = source := by
  induction source with
  | nil => rfl
  | cons c source ih => rw [List.flatMap_cons, unescape_escapeChar_append, ih]

theorem unescape_escape (text : String) : unescape (escape text).toList = text.toList := by
  rw [toList_escape, unescape_flatMap]

theorem IsEncoded.eq_escape {encoded : List Char} (h : IsEncoded encoded) {text : String}
    (hresolved : unescape encoded = text.toList) : encoded = (escape text).toList := by
  obtain ⟨source, rfl⟩ := isEncoded_iff.mp h
  rw [unescape_flatMap] at hresolved
  rw [hresolved, toList_escape]

theorem escape_injective : Function.Injective escape := by
  intro text other heq
  have hresolved := unescape_escape text
  rw [heq, unescape_escape other] at hresolved
  exact String.toList_inj.mp hresolved.symm

example : escape "&lt; <b>" = "&amp;lt; &lt;b&gt;" := by decide

end ContentServer.Html
