import ContentServer.Canonical
import ContentServer.Config.Basic
import ContentServer.Proofs.Path.Decomposition

namespace ContentServer

theorem Config.isExtension_iff {extension : String} :
    isExtension extension ↔ extension ≠ "" ∧ '.' ∉ extension.toList ∧ '/' ∉ extension.toList := by
  simp only [isExtension, Bool.and_eq_true, decide_eq_true_eq, List.all_eq_true, bne_iff_ne]
  refine and_congr_right fun _ => ⟨fun h => ⟨?_, ?_⟩, fun h c hc => ⟨?_, ?_⟩⟩
  · exact fun hm => (h '.' hm).1 rfl
  · exact fun hm => (h '/' hm).2 rfl
  · rintro rfl; exact h.1 hc
  · rintro rfl; exact h.2 hc

namespace RequestPath

variable {extension raw : String}

theorem dropWhile_slash {body : List Char} (hraw : raw.toList = '/' :: body)
    (hhead : body.head? ≠ some '/') : raw.toList.dropWhile (· == '/') = body := by
  rw [hraw, List.dropWhile_cons_of_pos (by rfl)]
  cases body with
  | nil => rfl
  | cons c l => exact List.dropWhile_cons_of_neg (by simpa using hhead)

theorem parse_eq_slash {body : List Char} (hraw : raw.toList = '/' :: body)
    (hhead : body.head? ≠ some '/') (hlast : body.getLast? = some '/') :
    parse extension raw = ⟨segmentsOf body, none, .slash⟩ := by
  simp [parse, dropWhile_slash hraw hhead, hlast]

theorem parse_eq_splitSuffix {body : List Char} (hraw : raw.toList = '/' :: body) (hne : body ≠ [])
    (hhead : body.head? ≠ some '/') (hlast : body.getLast? ≠ some '/') :
    parse extension raw =
      ⟨segmentsOf (splitSuffix extension body).1, (splitSuffix extension body).2.1,
        (splitSuffix extension body).2.2⟩ := by
  simp [parse, dropWhile_slash hraw hhead, hlast, hne]

theorem language_parse (h : (parse extension raw).suffix ≠ .extension) :
    (parse extension raw).language = none := by
  unfold parse at h ⊢
  dsimp only at h ⊢
  split
  · rfl
  · next hbody =>
    rw [if_neg hbody] at h
    obtain ⟨_, _, _, _, hsplit⟩ | ⟨_, _, _, hsplit⟩ | ⟨_, hsplit⟩ :=
      splitSuffix_cases extension (raw.toList.dropWhile (· == '/'))
    · rw [hsplit] at h; exact absurd rfl h
    · rw [hsplit]
    · rw [hsplit]

theorem enforce_eq_some {path : RequestPath} {policy : CanonicalPolicy} {target : String}
    (h : path.enforce policy extension none = some target) :
    path.segments ≠ [] ∧ path.suffix ≠ policy.requiredForm ∧
      target = path.canonical policy extension := by
  unfold enforce at h
  split at h
  · cases h
  · next hdiffers =>
    simp only [isRoot, Bool.or_eq_true, List.isEmpty_iff, decide_eq_true_eq, not_or] at hdiffers
    exact ⟨hdiffers.1, hdiffers.2, (Option.some.inj h).symm⟩

theorem enforce_eq_none {path : RequestPath} {policy : CanonicalPolicy}
    (h : path.suffix = policy.requiredForm) : path.enforce policy extension none = none := by
  simp [enforce, h]

/-- Is the canonical form of a path read as that of a shorter one? Then the key itself ends in what
is read as the suffix, or in the extension where the extension proper is read as a language. -/
def IsMisread (path : RequestPath) (policy : CanonicalPolicy) (extension : String) : Prop :=
  match policy with
  | .requireSlash => False
  | .requireExtension => isLanguageTag extension.toList ∧ dotted extension <:+ path.key.toList
  | .requireNeither => EndsInSuffix extension path.key.toList

theorem suffix_key_iff {path : RequestPath} {tail : List Char} :
    dotted extension ++ tail <:+ path.key.toList ↔
      dotted extension ++ tail <:+ joined path.segments := by
  rw [toList_key, List.suffix_cons_iff]
  refine or_iff_right fun h => ?_
  exact absurd (List.head_eq_of_cons_eq h) (by decide)

theorem spelled_segmentsOf_sublist (body : List Char) :
    (spelled (segmentsOf body)).Sublist ('/' :: body) := by
  rw [← Text.flatMap_cons_splitOn, spelled, segmentsOf, List.flatMap_map]
  simp only [String.toList_ofList]
  induction body.splitOn '/' with
  | nil => exact List.nil_sublist []
  | cons piece pieces ih =>
    rw [List.filter_cons, List.flatMap_cons]
    split
    · exact (List.Sublist.refl _).append ih
    · exact ih.trans (List.sublist_append_right _ _)

theorem length_key_lt {path other : RequestPath} {base rest : List Char}
    (hpath : joined path.segments = base ++ rest) (hother : other.segments = segmentsOf base)
    (hrest : rest ≠ []) : other.key.length < path.key.length := by
  have hlength : path.key.length = base.length + rest.length + 1 := by
    rw [← String.length_toList, toList_key, hpath, List.length_cons, List.length_append]
  have hpos : 0 < rest.length := List.length_pos_of_ne_nil hrest
  have hread := (spelled_segmentsOf_sublist base).length_le
  rw [← hother, List.length_cons] at hread
  by_cases hsegs : other.segments = []
  · have hroot : other.key = "/" := by rw [key, hsegs]; rfl
    rw [hroot, hlength]
    exact Nat.lt_add_left_iff_pos.mpr (by omega)
  · have hkey : other.key.length = (spelled other.segments).length := by
      rw [← String.length_toList, key, toList_separated hsegs]
    omega

section Target

variable {path : RequestPath} (hsegs : AreSegments path.segments) (hne : path.segments ≠ [])

include hsegs hne

theorem parse_key_slash : parse extension (path.key ++ "/") = ⟨path.segments, none, .slash⟩ := by
  have htarget : (path.key ++ "/").toList = '/' :: (joined path.segments ++ ['/']) := by
    rw [String.toList_append, toList_key]; rfl
  rw [parse_eq_slash htarget, segmentsOf_joined_slash hsegs hne]
  · rw [List.head?_append_of_ne_nil _ (joined_ne_nil hsegs hne)]
    exact head?_joined hsegs hne
  · exact List.getLast?_concat

theorem parse_key_splitSuffix {suffix : String} (hlast : suffix.toList.getLast? ≠ some '/') :
    parse extension (path.key ++ suffix) =
      ⟨segmentsOf (splitSuffix extension (joined path.segments ++ suffix.toList)).1,
        (splitSuffix extension (joined path.segments ++ suffix.toList)).2.1,
        (splitSuffix extension (joined path.segments ++ suffix.toList)).2.2⟩ := by
  refine parse_eq_splitSuffix ?_ ?_ ?_ ?_
  · rw [String.toList_append, toList_key]; rfl
  · exact List.append_ne_nil_of_left_ne_nil (joined_ne_nil hsegs hne) _
  · rw [List.head?_append_of_ne_nil _ (joined_ne_nil hsegs hne)]
    exact head?_joined hsegs hne
  · rw [List.getLast?_append]
    cases h : suffix.toList.getLast? with
    | none => exact getLast?_joined hsegs hne
    | some c => rw [h] at hlast; exact hlast

theorem parse_key_splitSuffix_bare :
    parse extension path.key =
      ⟨segmentsOf (splitSuffix extension (joined path.segments)).1,
        (splitSuffix extension (joined path.segments)).2.1,
        (splitSuffix extension (joined path.segments)).2.2⟩ := by
  have hparse : parse extension (path.key ++ "") = _ := parse_key_splitSuffix hsegs hne (by decide)
  simpa only [String.append_empty, String.toList_empty, List.append_nil] using hparse

/-- A bare key is read as itself, unless it ends in a suffix. -/
theorem parse_key (hsuffix : ¬ EndsInSuffix extension (joined path.segments)) :
    parse extension path.key = ⟨path.segments, none, .bare⟩ := by
  rw [parse_key_splitSuffix_bare hsegs hne]
  obtain ⟨base, tag, htag, hbody, -⟩ | ⟨base, hbody, -, -⟩ | ⟨-, hsplit⟩ :=
    splitSuffix_cases extension (joined path.segments)
  · refine absurd ⟨'.' :: tag, ?_, base, ?_⟩ hsuffix
    · simpa [isTail] using htag
    · rw [hbody, List.append_assoc]
  · exact absurd ⟨[], rfl, base, by rw [hbody, List.append_nil]⟩ hsuffix
  · rw [hsplit, segmentsOf_joined hsegs hne]

theorem length_key_parse_key_lt (hsuffix : EndsInSuffix extension (joined path.segments)) :
    (parse extension path.key).key.length < path.key.length := by
  have hparse : parse extension path.key = _ := parse_key_splitSuffix_bare hsegs hne
  obtain ⟨base, tag, htag, hbody, hsplit⟩ | ⟨base, hbody, -, hsplit⟩ | ⟨hno, -⟩ :=
    splitSuffix_cases extension (joined path.segments)
  · rw [List.append_assoc] at hbody
    refine length_key_lt hbody ?_ (List.cons_ne_nil _ _)
    rw [hparse, hsplit]
  · refine length_key_lt hbody ?_ (List.cons_ne_nil _ _)
    rw [hparse, hsplit]
  · exact absurd hsuffix hno

theorem key_parse_key_ne (hsuffix : EndsInSuffix extension (joined path.segments)) :
    (parse extension path.key).key ≠ path.key :=
  fun h => Nat.ne_of_lt (length_key_parse_key_lt hsegs hne hsuffix) (congrArg String.length h)

section Extension

variable (hslash : '/' ∉ extension.toList) (hdot : '.' ∉ extension.toList)

include hslash

theorem parse_key_splitSuffix_dotted :
    parse extension (path.key ++ "." ++ extension) =
      ⟨segmentsOf (splitSuffix extension (joined path.segments ++ dotted extension)).1,
        (splitSuffix extension (joined path.segments ++ dotted extension)).2.1,
        (splitSuffix extension (joined path.segments ++ dotted extension)).2.2⟩ := by
  have htoList : ("." ++ extension).toList = dotted extension := by rw [String.toList_append]; rfl
  rw [String.append_assoc, ← htoList]
  refine parse_key_splitSuffix hsegs hne fun hlast => ?_
  rw [htoList] at hlast
  have hmem : '/' ∈ dotted extension := List.mem_of_getLast? hlast
  rcases List.mem_cons.mp hmem with h | h
  · exact absurd h (by decide)
  · exact hslash h

include hdot

/-- The extension form of a key is read as that key, unless the extension is read as a language. -/
theorem parse_key_dotted
    (hlanguage : ¬ (isLanguageTag extension.toList ∧ dotted extension <:+ joined path.segments)) :
    parse extension (path.key ++ "." ++ extension) = ⟨path.segments, none, .extension⟩ := by
  rw [parse_key_splitSuffix_dotted hsegs hne hslash]
  obtain ⟨base, tag, htag, hbody, -⟩ | ⟨base, hbody, -, hsplit⟩ | ⟨hno, -⟩ :=
    splitSuffix_cases extension (joined path.segments ++ dotted extension)
  · obtain ⟨hstem, rfl⟩ :=
      Text.append_cons_inj_of_notMem_right hdot (dot_notMem_of_isLanguageTag htag) hbody
    exact absurd ⟨htag, base, hstem.symm⟩ hlanguage
  · rw [hsplit, ← List.append_cancel_right hbody, segmentsOf_joined hsegs hne]
  · exact absurd ⟨[], rfl, joined path.segments, by rw [List.append_nil]⟩ hno

theorem length_key_parse_dotted_lt (htag : isLanguageTag extension.toList)
    (hsuffix : dotted extension <:+ joined path.segments) :
    (parse extension (path.key ++ "." ++ extension)).key.length < path.key.length := by
  have hparse := parse_key_splitSuffix_dotted hsegs hne hslash
  obtain ⟨stem, hstem⟩ := hsuffix
  obtain ⟨base, tag, htag', hbody, hsplit⟩ | ⟨_, _, hno, _⟩ | ⟨hno, _⟩ :=
    splitSuffix_cases extension (joined path.segments ++ dotted extension)
  · obtain ⟨hbase, -⟩ :=
      Text.append_cons_inj_of_notMem_right hdot (dot_notMem_of_isLanguageTag htag') hbody
    refine length_key_lt hbase ?_ (List.cons_ne_nil _ _)
    rw [hparse, hsplit]
  · exact absurd (by rw [hstem]; rfl) (hno stem extension.toList htag)
  · exact absurd ⟨[], rfl, joined path.segments, by rw [List.append_nil]⟩ hno

theorem key_parse_dotted_ne (htag : isLanguageTag extension.toList)
    (hsuffix : dotted extension <:+ joined path.segments) :
    (parse extension (path.key ++ "." ++ extension)).key ≠ path.key :=
  fun h => Nat.ne_of_lt (length_key_parse_dotted_lt hsegs hne hslash hdot htag hsuffix)
    (congrArg String.length h)

end Extension

end Target

/-- The target of a canonical redirect is a path of the same key that is not redirected again,
except where the target is misread: it is then read as a path of another key. -/
theorem enforce_settles_iff (hext : Config.isExtension extension) {policy : CanonicalPolicy}
    {target : String} (h : (parse extension raw).enforce policy extension none = some target) :
    (((parse extension target).key = (parse extension raw).key ∧
        (parse extension target).enforce policy extension none = none) ↔
      ¬ (parse extension raw).IsMisread policy extension) ∧
    ((parse extension raw).IsMisread policy extension →
      (parse extension target).key ≠ (parse extension raw).key) := by
  obtain ⟨-, hdot, hslash⟩ := Config.isExtension_iff.mp hext
  have hsegs := areSegments_parse extension raw
  have hlanguage := @language_parse extension raw
  generalize parse extension raw = path at h hsegs hlanguage ⊢
  obtain ⟨hne, hform, rfl⟩ := enforce_eq_some h
  have hroot : path.isRoot = false := by simpa [isRoot] using hne
  suffices hread :
      (¬ path.IsMisread policy extension →
        (parse extension (path.canonical policy extension)).key = path.key ∧
        (parse extension (path.canonical policy extension)).enforce policy extension none = none) ∧
      (path.IsMisread policy extension →
        (parse extension (path.canonical policy extension)).key ≠ path.key) from
    ⟨⟨fun hsettled hmisread => hread.2 hmisread hsettled.1, hread.1⟩, hread.2⟩
  cases policy with
  | requireSlash =>
    have hcanonical : path.canonical .requireSlash extension = path.key ++ "/" := by
      simp [canonical, hroot]
    rw [hcanonical, parse_key_slash hsegs hne]
    exact ⟨fun _ => ⟨rfl, enforce_eq_none rfl⟩, False.elim⟩
  | requireExtension =>
    have hcanonical :
        path.canonical .requireExtension extension = path.key ++ "." ++ extension := by
      simp [canonical, hroot, hlanguage hform]
    rw [hcanonical, IsMisread, ← List.append_nil (dotted extension), suffix_key_iff,
      List.append_nil]
    refine ⟨fun hread => ?_,
      fun ⟨htag, hsuffix⟩ => key_parse_dotted_ne hsegs hne hslash hdot htag hsuffix⟩
    rw [parse_key_dotted hsegs hne hslash hdot hread]
    exact ⟨rfl, enforce_eq_none rfl⟩
  | requireNeither =>
    have hcanonical : path.canonical .requireNeither extension = path.key := by
      simp [canonical, hroot]
    simp only [hcanonical, IsMisread, EndsInSuffix, suffix_key_iff]
    refine ⟨fun hread => ?_, key_parse_key_ne hsegs hne⟩
    rw [parse_key hsegs hne hread]
    exact ⟨rfl, enforce_eq_none rfl⟩

/-- A page below a directory named like a file keeps its key on the way. -/
theorem enforce_settles_nested :
    (Config.isExtension "html" ∧
      (parse "html" "/v1.html/intro/").enforce .requireExtension "html" none =
        some "/v1.html/intro.html") ∧
    (((parse "html" "/v1.html/intro.html").key = (parse "html" "/v1.html/intro/").key ∧
      (parse "html" "/v1.html/intro.html").enforce .requireExtension "html" none = none) ↔
    ¬ (parse "html" "/v1.html/intro/").IsMisread .requireExtension "html") :=
  have hext : Config.isExtension "html" := by decide +kernel
  have htarget : (parse "html" "/v1.html/intro/").enforce .requireExtension "html" none =
      some "/v1.html/intro.html" := by decide +kernel
  ⟨⟨hext, htarget⟩, (enforce_settles_iff hext htarget).1⟩

/-- A key that ends in the extension is lost by a redirect to its bare form. -/
theorem enforce_loses_key :
    Config.isExtension "html" ∧
    (parse "html" "/a.html/").enforce .requireNeither "html" none = some "/a.html" ∧
    (parse "html" "/a.html").key ≠ (parse "html" "/a.html/").key := by
  decide +kernel

end RequestPath

end ContentServer
