import ContentServer.Path
import ContentServer.Proofs.Text.Split

namespace ContentServer

theorem isLower_or_hyphen_of_mem {tag : List Char} (h : isLanguageTag tag) {c : Char} (hc : c ∈ tag) :
    c.isLower ∨ c = '-' := by
  unfold isLanguageTag at h
  split at h
  · simp only [Bool.and_eq_true] at h
    simp only [List.mem_cons, List.not_mem_nil, or_false] at hc
    obtain rfl | rfl := hc
    · exact .inl h.1
    · exact .inl h.2
  · simp only [Bool.and_eq_true] at h
    simp only [List.mem_cons, List.not_mem_nil, or_false] at hc
    obtain rfl | rfl | rfl | rfl | rfl := hc
    · exact .inl h.1.1.1
    · exact .inl h.1.1.2
    · exact .inr rfl
    · exact .inl h.1.2
    · exact .inl h.2
  · cases h

theorem dot_notMem_of_isLanguageTag {tag : List Char} (h : isLanguageTag tag) : '.' ∉ tag :=
  fun hm => absurd (isLower_or_hyphen_of_mem h hm) (by decide)

namespace RequestPath

variable (extension : String)

/-- What may follow the extension in a suffix: nothing, or a dot and a language tag. -/
def isTail : List Char → Bool
  | [] => true
  | c :: tag => c = '.' && isLanguageTag tag

/-- Does a text end in the page extension, with or without a language tag? -/
def EndsInSuffix (text : List Char) : Prop :=
  ∃ tail, isTail tail ∧ dotted extension ++ tail <:+ text

variable {extension}

theorem stripLanguage?_eq_some_iff {body base : List Char} {tag : String} :
    stripLanguage? extension body = some (base, tag) ↔
      isLanguageTag tag.toList ∧ body = base ++ dotted extension ++ '.' :: tag.toList := by
  constructor
  · intro h
    unfold stripLanguage? at h
    cases hcut : Text.cutLast? '.' body with
    | none => simp [hcut] at h
    | some parts =>
      obtain ⟨stem, last⟩ := parts
      simp only [hcut] at h
      split at h
      · next htag =>
        obtain ⟨found, hfound, he⟩ := Option.map_eq_some_iff.mp h
        obtain ⟨rfl, rfl⟩ := Prod.mk.inj he
        rw [List.isSuffixOf?_eq_some_iff_append_eq] at hfound
        rw [String.toList_ofList]
        exact ⟨htag, by rw [hfound]; exact Text.cutLast?_eq_some hcut⟩
      · simp at h
  · rintro ⟨htag, rfl⟩
    have hsuffix : List.isSuffixOf? (dotted extension) (base ++ dotted extension) = some base :=
      List.isSuffixOf?_eq_some_iff_append_eq.mpr rfl
    rw [stripLanguage?, Text.cutLast?_append_cons _ (dot_notMem_of_isLanguageTag htag)]
    simp only [htag, if_true, hsuffix, Option.map_some, String.ofList_toList]

theorem splitSuffix_cases (extension : String) (body : List Char) :
    (∃ base tag, isLanguageTag tag ∧ body = base ++ dotted extension ++ '.' :: tag ∧
      splitSuffix extension body = (base, some (String.ofList tag), .extension)) ∨
    (∃ base, body = base ++ dotted extension ∧
      (∀ stem tag, isLanguageTag tag → body ≠ stem ++ dotted extension ++ '.' :: tag) ∧
      splitSuffix extension body = (base, none, .extension)) ∨
    (¬ EndsInSuffix extension body ∧ splitSuffix extension body = (body, none, .bare)) := by
  unfold splitSuffix
  cases hstrip : stripLanguage? extension body with
  | some parts =>
    obtain ⟨base, tag⟩ := parts
    obtain ⟨htag, hbody⟩ := stripLanguage?_eq_some_iff.mp hstrip
    exact .inl ⟨base, tag.toList, htag, hbody, by rw [String.ofList_toList]⟩
  | none =>
    have hno : ∀ stem tag, isLanguageTag tag → body ≠ stem ++ dotted extension ++ '.' :: tag := by
      intro stem tag htag hbody
      have hsome : stripLanguage? extension body = some (stem, String.ofList tag) :=
        stripLanguage?_eq_some_iff.mpr
          ⟨by rwa [String.toList_ofList], by rwa [String.toList_ofList]⟩
      rw [hstrip] at hsome
      cases hsome
    cases hsuffix : List.isSuffixOf? (dotted extension) body with
    | some base =>
      exact .inr (.inl ⟨base, (List.isSuffixOf?_eq_some_iff_append_eq.mp hsuffix).symm, hno, rfl⟩)
    | none =>
      refine .inr (.inr ⟨?_, rfl⟩)
      rintro ⟨tail, htail, stem, hstem⟩
      cases tail with
      | nil =>
        rw [List.append_nil] at hstem
        rw [List.isSuffixOf?_eq_some_iff_append_eq.mpr hstem] at hsuffix
        cases hsuffix
      | cons c tag =>
        simp only [isTail, Bool.and_eq_true, decide_eq_true_eq] at htail
        obtain ⟨rfl, htag⟩ := htail
        exact hno stem tag htag (by rw [← hstem, List.append_assoc])

/-- Segments that a path can have: they are not empty, and hold no separator. -/
def AreSegments (segments : List String) : Prop :=
  ∀ s ∈ segments, s ≠ "" ∧ '/' ∉ s.toList

instance (segments : List String) : Decidable (AreSegments segments) :=
  inferInstanceAs (Decidable (∀ s ∈ segments, s ≠ "" ∧ '/' ∉ s.toList))

def joined (segments : List String) : List Char :=
  ['/'].intercalate (segments.map String.toList)

theorem toList_key (path : RequestPath) : path.key.toList = '/' :: joined path.segments := by
  simp [key, joinSegments, joined, String.toList_intercalate]

theorem areSegments_parse (extension raw : String) : AreSegments (parse extension raw).segments :=
  fun _ hs => mem_segments_parse extension hs

section Joined

variable {segments : List String} (hsegs : AreSegments segments) (hne : segments ≠ [])

include hsegs

theorem notMem_map_toList : [] ∉ segments.map String.toList := by
  intro hmem
  obtain ⟨s, hs, he⟩ := List.mem_map.mp hmem
  exact (hsegs s hs).1 (String.toList_eq_nil_iff.mp he)

theorem filter_map_toList :
    ((segments.map String.toList).filter (! ·.isEmpty)).map String.ofList = segments := by
  have hall : (segments.map String.toList).filter (! ·.isEmpty) = segments.map String.toList := by
    rw [List.filter_eq_self]
    intro piece hp
    cases piece with
    | nil => exact absurd hp (notMem_map_toList hsegs)
    | cons c cs => rfl
  rw [hall, List.map_map]
  exact List.map_id'' (fun s => String.ofList_toList) segments

include hne

theorem splitOn_joined : (joined segments).splitOn '/' = segments.map String.toList := by
  refine List.splitOn_intercalate '/' ?_ (by simpa using hne)
  intro piece hp
  obtain ⟨s, hs, rfl⟩ := List.mem_map.mp hp
  exact (hsegs s hs).2

theorem segmentsOf_joined : segmentsOf (joined segments) = segments := by
  rw [segmentsOf, splitOn_joined hsegs hne, filter_map_toList hsegs]

theorem segmentsOf_joined_slash : segmentsOf (joined segments ++ ['/']) = segments := by
  rw [segmentsOf, List.splitOn_append_cons_self, splitOn_joined hsegs hne, List.splitOn_nil,
    List.filter_append, List.map_append, filter_map_toList hsegs]
  exact List.append_nil segments

theorem joined_ne_nil : joined segments ≠ [] := by
  intro he
  have hsplit := splitOn_joined hsegs hne
  rw [he] at hsplit
  exact notMem_map_toList hsegs (hsplit ▸ List.mem_singleton.mpr rfl)

theorem head?_joined : (joined segments).head? ≠ some '/' := by
  intro he
  obtain ⟨l, hl⟩ := List.head?_eq_some_iff.mp he
  have hsplit := splitOn_joined hsegs hne
  rw [hl, Text.splitOn_cons_self] at hsplit
  exact notMem_map_toList hsegs (hsplit ▸ List.mem_cons_self)

theorem getLast?_joined : (joined segments).getLast? ≠ some '/' := by
  intro he
  obtain ⟨l, hl⟩ := List.getLast?_eq_some_iff.mp he
  have hsplit := splitOn_joined hsegs hne
  rw [hl, List.splitOn_append_cons_self] at hsplit
  exact notMem_map_toList hsegs (hsplit ▸ List.mem_append_right _ (List.mem_singleton.mpr rfl))

end Joined

end RequestPath

end ContentServer
