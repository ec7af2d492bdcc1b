import ContentServer.Proofs.Path.Canonical

namespace ContentServer

theorem Text.suffix_append_iff {sep : Char} {front piece ending : List Char}
    (hfront : front = [] ∨ front.getLast? = some sep) (hending : sep ∉ ending) :
    ending <:+ front ++ piece ↔ ending <:+ piece := by
  refine ⟨fun h => ?_, fun h => h.trans (List.suffix_append front piece)⟩
  obtain rfl | hlast := hfront
  · exact h
  · obtain ⟨front, rfl⟩ := List.getLast?_eq_some_iff.mp hlast
    have hpiece : sep :: piece <:+ front ++ [sep] ++ piece := ⟨front, by simp⟩
    obtain hshort | hlong := List.suffix_or_suffix_of_suffix h hpiece
    · obtain rfl | hshort := List.suffix_cons_iff.mp hshort
      · exact absurd List.mem_cons_self hending
      · exact hshort
    · exact absurd (hlong.subset List.mem_cons_self) hending

namespace RequestPath

variable {extension : String}

theorem slash_notMem_suffix (hslash : '/' ∉ extension.toList) {tail : List Char}
    (htail : isTail tail) :
    '/' ∉ dotted extension ++ tail := by
  have hext : '/' ∉ dotted extension := by simpa [dotted] using hslash
  cases tail with
  | nil => simpa using hext
  | cons c tag =>
    simp only [isTail, Bool.and_eq_true, decide_eq_true_eq] at htail
    obtain ⟨rfl, htag⟩ := htail
    have hmem : '/' ∉ tag := fun hm => absurd (isLower_or_hyphen_of_mem htag hm) (by decide)
    simpa [hext] using hmem

section Suffix

variable {body base tag : List Char}

theorem splitSuffix_language (htag : isLanguageTag tag) :
    splitSuffix extension (base ++ dotted extension ++ '.' :: tag) =
      (base, some (String.ofList tag), .extension) := by
  have hstrip : stripLanguage? extension (base ++ dotted extension ++ '.' :: tag) =
      some (base, String.ofList tag) :=
    stripLanguage?_eq_some_iff.mpr ⟨by rwa [String.toList_ofList], by rw [String.toList_ofList]⟩
  rw [splitSuffix, hstrip]

theorem splitSuffix_extension
    (hno : ∀ stem tag, isLanguageTag tag →
      base ++ dotted extension ≠ stem ++ dotted extension ++ '.' :: tag) :
    splitSuffix extension (base ++ dotted extension) = (base, none, .extension) := by
  obtain ⟨stem, tag, htag, hbody, -⟩ | ⟨stem, hbody, -, hsplit⟩ | ⟨hbare, -⟩ :=
    splitSuffix_cases extension (base ++ dotted extension)
  · exact absurd hbody (hno stem tag htag)
  · rw [hsplit, List.append_cancel_right hbody]
  · exact absurd ⟨[], rfl, base, by rw [List.append_nil]⟩ hbare

theorem splitSuffix_bare (h : ¬ EndsInSuffix extension body) :
    splitSuffix extension body = (body, none, .bare) := by
  obtain ⟨stem, tag, htag, hbody, -⟩ | ⟨stem, hbody, -, -⟩ | ⟨-, hsplit⟩ :=
    splitSuffix_cases extension body
  · have htail : isTail ('.' :: tag) := by simpa [isTail] using htag
    exact absurd ⟨'.' :: tag, htail, stem, by rw [hbody, List.append_assoc]⟩ h
  · exact absurd ⟨[], rfl, stem, by rw [hbody, List.append_nil]⟩ h
  · exact hsplit

end Suffix

section LastPiece

variable (hslash : '/' ∉ extension.toList) {front last : List Char}
  (hfront : front = [] ∨ front.getLast? = some '/')

include hslash hfront

theorem endsInSuffix_append_iff :
    EndsInSuffix extension (front ++ last) ↔ EndsInSuffix extension last :=
  exists_congr fun _ => and_congr_right fun htail =>
    Text.suffix_append_iff hfront (slash_notMem_suffix hslash htail)

theorem splitSuffix_append :
    splitSuffix extension (front ++ last) =
      (front ++ (splitSuffix extension last).1, (splitSuffix extension last).2) := by
  obtain ⟨base, tag, htag, rfl, hsplit⟩ | ⟨base, rfl, hno, hsplit⟩ | ⟨hbare, hsplit⟩ :=
    splitSuffix_cases extension last
  · rw [hsplit, ← List.append_assoc, ← List.append_assoc, splitSuffix_language htag]
  · rw [hsplit, ← List.append_assoc]
    refine splitSuffix_extension fun stem tag htag hbody => ?_
    have htail : isTail ('.' :: tag) := by simpa [isTail] using htag
    have hending : dotted extension ++ '.' :: tag <:+ front ++ (base ++ dotted extension) :=
      ⟨stem, by rw [← List.append_assoc, ← List.append_assoc, hbody]⟩
    obtain ⟨stem, hstem⟩ :=
      (Text.suffix_append_iff hfront (slash_notMem_suffix hslash htail)).mp hending
    exact hno stem tag htag (by rw [← hstem, List.append_assoc])
  · rw [hsplit]
    exact splitSuffix_bare fun h => hbare ((endsInSuffix_append_iff hslash hfront).mp h)

end LastPiece

/-- The path that a text with these segments is read as if it does not end in a separator: the
suffix is taken off the last segment, and what is left is a segment unless it is empty. -/
def ofSegments (extension : String) (segments : List String) : RequestPath :=
  match segments.getLast? with
  | none => ⟨[], none, .slash⟩
  | some last =>
    let (base, language, suffix) := splitSuffix extension last.toList
    ⟨segments.dropLast ++ segmentsOf base, language, suffix⟩

theorem ofSegments_concat (extension : String) (kept : List String) (last : String) :
    ofSegments extension (kept ++ [last]) =
      ⟨kept ++ segmentsOf (splitSuffix extension last.toList).1, (splitSuffix extension last.toList).2.1,
        (splitSuffix extension last.toList).2.2⟩ := by
  rw [ofSegments, List.getLast?_concat, List.dropLast_concat]

theorem segmentsOf_slash (body : List Char) : segmentsOf ('/' :: body) = segmentsOf body := by
  rw [segmentsOf, Text.splitOn_cons_self, List.filter_cons_of_neg (by simp), segmentsOf]

theorem segmentsOf_dropWhile (body : List Char) :
    segmentsOf (body.dropWhile (· == '/')) = segmentsOf body := by
  induction body with
  | nil => rfl
  | cons c body ih =>
    by_cases hc : c = '/'
    · rw [hc, List.dropWhile_cons_of_pos (by rfl), ih, segmentsOf_slash]
    · rw [List.dropWhile_cons_of_neg (by simpa using hc)]

theorem segmentsOf_append {front : List Char} (hfront : front = [] ∨ front.getLast? = some '/')
    (piece : List Char) : segmentsOf (front ++ piece) = segmentsOf front ++ segmentsOf piece := by
  obtain rfl | hlast := hfront
  · rfl
  · obtain ⟨front, rfl⟩ := List.getLast?_eq_some_iff.mp hlast
    have hsplit : (front ++ ['/']).splitOn '/' = front.splitOn '/' ++ [[]] :=
      List.splitOn_append_cons_self front []
    rw [List.append_assoc, List.singleton_append, segmentsOf, segmentsOf, segmentsOf, hsplit,
      List.splitOn_append_cons_self, List.filter_append, List.filter_append, List.map_append,
      List.map_append]
    simp

theorem segmentsOf_piece {piece : List Char} (hslash : '/' ∉ piece) (hne : piece ≠ []) :
    segmentsOf piece = [String.ofList piece] := by
  rw [segmentsOf, List.splitOn_eq_singleton hslash, List.filter_cons_of_pos (by simpa using hne),
    List.filter_nil, List.map_singleton]

/-- All that counts of a text is which segments it has, and whether it ends in a separator. -/
theorem parse_eq_ofSegments (hslash : '/' ∉ extension.toList) (raw : String) :
    parse extension raw =
      if raw.toList.getLast? = some '/' then ⟨segmentsOf raw.toList, none, .slash⟩
      else ofSegments extension (segmentsOf raw.toList) := by
  rw [parse, ← segmentsOf_dropWhile raw.toList]
  dsimp only
  by_cases hempty : raw.toList.dropWhile (· == '/') = []
  · rw [hempty, if_pos (by rfl)]
    exact (ite_self _).symm
  · have hlast : (raw.toList.dropWhile (· == '/')).getLast? = raw.toList.getLast? := by
      conv => rhs; rw [← List.takeWhile_append_dropWhile (p := (· == '/')) (l := raw.toList)]
      rw [List.getLast?_append_of_ne_nil _ hempty]
    rw [← hlast]
    generalize raw.toList.dropWhile (· == '/') = body at hempty
    by_cases hends : body.getLast? = some '/'
    · rw [if_pos (by simp [hends]), if_pos hends]
    · rw [if_neg (by simp [hempty, hends]), if_neg hends]
      obtain ⟨front, last, rfl, hpiece, hfront⟩ := Text.exists_last_piece '/' body
      have hne : last ≠ [] := by
        rintro rfl
        rw [List.append_nil] at hempty hends
        exact hfront.elim hempty hends
      rw [splitSuffix_append hslash hfront, segmentsOf_append hfront, segmentsOf_append hfront,
        segmentsOf_piece hpiece hne, ofSegments_concat, String.toList_ofList]

theorem parse_collapse (hslash : '/' ∉ extension.toList) (raw : String) :
    parse extension (Text.lift (Text.collapse '/') raw) = parse extension raw := by
  have hsegs : segmentsOf (Text.collapse '/' raw.toList) = segmentsOf raw.toList := by
    rw [segmentsOf, Text.filter_splitOn_collapse, segmentsOf]
  rw [parse_eq_ofSegments hslash, parse_eq_ofSegments hslash, Text.lift, String.toList_ofList,
    Text.getLast?_collapse, hsegs]

section Written

variable {segments : List String} (hne : segments ≠ [])

theorem suffix_joined_iff {tail : List Char} (hslash : '/' ∉ dotted extension ++ tail) :
    dotted extension ++ tail <:+ joined segments ↔
      dotted extension ++ tail <:+ (segments.getLast hne).toList := by
  have hkey : (key ⟨segments, none, .slash⟩).toList =
      (spelled segments.dropLast ++ ['/']) ++ (segments.getLast hne).toList := by
    rw [key, toList_separated hne]
    conv => lhs; rw [← List.dropLast_append_getLast hne, spelled_append, spelled_singleton]
    rw [List.append_assoc, List.singleton_append]
  have hjoined : dotted extension ++ tail <:+ (key ⟨segments, none, .slash⟩).toList ↔
      dotted extension ++ tail <:+ joined segments := suffix_key_iff
  rw [← hjoined, hkey]
  exact Text.suffix_append_iff (.inr List.getLast?_concat) hslash

theorem endsInSuffix_joined_iff (hslash : '/' ∉ extension.toList) :
    EndsInSuffix extension (joined segments) ↔
      EndsInSuffix extension (segments.getLast hne).toList :=
  exists_congr fun _ => and_congr_right fun htail =>
    suffix_joined_iff hne (slash_notMem_suffix hslash htail)

include hne in
theorem parse_key_language (hsegs : AreSegments segments) (hslash : '/' ∉ extension.toList)
    {tag : String} (htag : isLanguageTag tag.toList) :
    parse extension ("/" ++ joinSegments segments ++ "." ++ extension ++ "." ++ tag) =
      ⟨segments, some tag, .extension⟩ := by
  have hsuffix :
      ("." ++ (extension ++ ("." ++ tag))).toList = dotted extension ++ '.' :: tag.toList := by
    simp only [String.toList_append]
    rfl
  have hlast : ("." ++ (extension ++ ("." ++ tag))).toList.getLast? ≠ some '/' := by
    rw [hsuffix]
    exact fun h =>
      slash_notMem_suffix hslash (by simpa [isTail] using htag) (List.mem_of_getLast? h)
  have hparse :
      parse extension (key ⟨segments, none, .slash⟩ ++ ("." ++ (extension ++ ("." ++ tag)))) = _ :=
    parse_key_splitSuffix hsegs hne hlast
  rw [hsuffix, ← List.append_assoc, splitSuffix_language htag, segmentsOf_joined hsegs hne,
    String.ofList_toList] at hparse
  simpa only [key, String.append_assoc] using hparse

end Written

/-- A path that is written with a suffix is read back with this suffix, and one without a suffix is
read back bare, except where the last segment itself ends like a suffix. Runs of separators count as
one. -/
theorem parse_written_iff (hext : Config.isExtension extension) :
    (∀ (segments : List String) (hne : segments ≠ []), AreSegments segments →
      let written := "/" ++ joinSegments segments
      let last := (segments.getLast hne).toList
      parse extension (written ++ "/") = ⟨segments, none, .slash⟩ ∧
      (∀ tag : String, isLanguageTag tag.toList →
        parse extension (written ++ "." ++ extension ++ "." ++ tag) =
          ⟨segments, some tag, .extension⟩) ∧
      (parse extension (written ++ "." ++ extension) = ⟨segments, none, .extension⟩ ↔
        ¬ (isLanguageTag extension.toList ∧ dotted extension <:+ last)) ∧
      (parse extension written = ⟨segments, none, .bare⟩ ↔ ¬ EndsInSuffix extension last)) ∧
    ∀ raw : String, parse extension raw = parse extension (Text.lift (Text.collapse '/') raw) ∧
      AreSegments (parse extension raw).segments := by
  obtain ⟨-, hdot, hslash⟩ := Config.isExtension_iff.mp hext
  refine ⟨fun segments hne hsegs => ?_, fun raw => ?_⟩
  · intro written last
    have hlanguage (tag : String) (htag : isLanguageTag tag.toList) :=
      parse_key_language hne hsegs hslash htag
    obtain ⟨path, rfl, hwritten⟩ : ∃ path : RequestPath, path.segments = segments ∧ path.key = written :=
      ⟨⟨segments, none, .slash⟩, rfl, rfl⟩
    have hdotted : dotted extension <:+ joined path.segments ↔ dotted extension <:+ last := by
      have htail :
          dotted extension ++ [] <:+ joined path.segments ↔ dotted extension ++ [] <:+ last :=
        suffix_joined_iff hne (slash_notMem_suffix hslash rfl)
      rwa [List.append_nil] at htail
    refine ⟨?_, hlanguage, ?_⟩
    · rw [← hwritten]
      exact parse_key_slash hsegs hne
    rw [← hdotted, ← endsInSuffix_joined_iff hne hslash, ← hwritten]
    refine ⟨⟨?_, ?_⟩, ⟨?_, ?_⟩⟩
    · rintro hparse ⟨htag, hsuffix⟩
      exact key_parse_dotted_ne hsegs hne hslash hdot htag hsuffix (by rw [hparse]; rfl)
    · exact parse_key_dotted hsegs hne hslash hdot
    · intro hparse hsuffix
      exact key_parse_key_ne hsegs hne hsuffix (by rw [hparse]; rfl)
    · exact parse_key hsegs hne
  · exact ⟨(parse_collapse hslash raw).symm, areSegments_parse extension raw⟩

/-- With an extension that could be a language, a last segment that ends in it cannot take it once
more. -/
theorem parse_written_iff_nested :
    Config.isExtension "de" ∧ isLanguageTag "en-gb".toList ∧
    parse "de" "/v1.de/intro.de.en-gb" = ⟨["v1.de", "intro"], some "en-gb", .extension⟩ ∧
    parse "de" "/v1.de/intro.de" = ⟨["v1.de", "intro"], none, .extension⟩ ∧
    parse "de" "/intro.de.de" ≠ ⟨["intro.de"], none, .extension⟩ ∧
    parse "de" "//v1.de///intro" = ⟨["v1.de", "intro"], none, .bare⟩ := by
  have hext : Config.isExtension "de" := by decide +kernel
  have htag : isLanguageTag "en-gb".toList := by decide +kernel
  obtain ⟨hwritten, hraw⟩ := parse_written_iff hext
  obtain ⟨-, htagged, hdotted, hbare⟩ := hwritten ["v1.de", "intro"] (by decide) (by decide +kernel)
  obtain ⟨-, -, htwice, -⟩ := hwritten ["intro.de"] (by decide) (by decide +kernel)
  refine ⟨hext, htag, htagged "en-gb" htag, hdotted.mpr (by decide +kernel), ?_, ?_⟩
  · exact fun h => htwice.mp h (by decide +kernel)
  · rw [(hraw "//v1.de///intro").1]
    refine hbare.mpr ?_
    rintro ⟨tail, -, hsuffix⟩
    exact absurd (hsuffix.subset (List.mem_append_left _ List.mem_cons_self)) (by decide +kernel)

end RequestPath

end ContentServer
