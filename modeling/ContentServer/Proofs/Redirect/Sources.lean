import ContentServer.Proofs.Path.Grammar
import ContentServer.Proofs.Redirect.Probes

namespace ContentServer

namespace RequestPath

variable {extension : String}

/-- Is the last segment of a text nothing but a suffix? -/
def EndsInLoneSuffix (extension : String) (text : List Char) : Prop :=
  ∃ tail, isTail tail ∧ '/' :: (dotted extension ++ tail) <:+ text

theorem mem_redirectSources_iff {path : RequestPath} (hne : path.segments ≠ []) {source : String} :
    source ∈ path.redirectSources extension ↔
      source = path.key ++ "/" ∨ source = path.key ++ "." ++ extension ∨ source = path.key ∨
        ∃ language, path.language = some language ∧
          source = path.key ++ "." ++ extension ++ "." ++ language := by
  have hroot : path.isRoot = false := by simpa [isRoot] using hne
  simp [redirectSources, hroot, eq_comm]

theorem mem_redirectSources_of_slash {path : RequestPath} {raw : String}
    (hraw : raw.toList = spelled path.segments ++ ['/']) :
    raw ∈ path.redirectSources extension := by
  by_cases hne : path.segments = []
  · have hroot : path.isRoot = true := by simpa [isRoot] using hne
    rw [redirectSources, if_pos hroot, List.mem_singleton, key, hne, ← String.toList_inj, hraw, hne]
    decide
  · rw [mem_redirectSources_iff hne, ← String.toList_inj, hraw, String.toList_append, key,
      toList_separated hne]
    exact .inl rfl

theorem exists_of_mem_redirectSources {path : RequestPath} {source : String}
    (h : source ∈ path.redirectSources extension) :
    ∃ rest, source.toList = spelled path.segments ++ rest ∧
      (rest = ['/'] ∨ rest.head? ≠ some '/') := by
  by_cases hne : path.segments = []
  · have hroot : path.isRoot = true := by simpa [isRoot] using hne
    rw [redirectSources, if_pos hroot, List.mem_singleton, key, hne] at h
    rw [h, hne]
    exact ⟨['/'], by decide, .inl rfl⟩
  · have hkey : path.key.toList = spelled path.segments := by rw [key, toList_separated hne]
    obtain rfl | rfl | rfl | ⟨language, -, rfl⟩ := (mem_redirectSources_iff hne).mp h
    · exact ⟨['/'], by rw [String.toList_append, hkey]; rfl, .inl rfl⟩
    · refine ⟨dotted extension, ?_, .inr (by simp [dotted])⟩
      rw [String.toList_append, String.toList_append, hkey, List.append_assoc]
      rfl
    · exact ⟨[], by rw [hkey, List.append_nil], .inr (by simp)⟩
    · refine ⟨dotted extension ++ '.' :: language.toList, ?_, .inr (by simp [dotted])⟩
      simp only [String.toList_append, hkey, List.append_assoc]
      rfl

theorem splitSuffix_eq_nil_iff {last : List Char} (hne : last ≠ []) :
    (splitSuffix extension last).1 = [] ↔
      ∃ tail, isTail tail ∧ last = dotted extension ++ tail := by
  constructor
  · intro hnil
    obtain ⟨base, tag, htag, hlast, hsplit⟩ | ⟨base, hlast, -, hsplit⟩ | ⟨-, hsplit⟩ :=
      splitSuffix_cases extension last
    · obtain rfl : base = [] := by rwa [hsplit] at hnil
      exact ⟨'.' :: tag, by simpa [isTail] using htag, hlast⟩
    · obtain rfl : base = [] := by rwa [hsplit] at hnil
      exact ⟨[], rfl, by rw [hlast, List.append_nil]; rfl⟩
    · rw [hsplit] at hnil
      exact absurd hnil hne
  · rintro ⟨tail, htail, rfl⟩
    cases tail with
    | nil =>
      have hsplit : splitSuffix extension ([] ++ dotted extension) = ([], none, .extension) := by
        refine splitSuffix_extension fun stem tag _ hbody => ?_
        have hlength := congrArg List.length hbody
        simp only [List.length_append, List.length_cons, List.length_nil] at hlength
        omega
      rw [List.append_nil]
      exact congrArg Prod.fst hsplit
    | cons c tag =>
      simp only [isTail, Bool.and_eq_true, decide_eq_true_eq] at htail
      obtain ⟨rfl, htag⟩ := htail
      have hsplit : splitSuffix extension ([] ++ dotted extension ++ '.' :: tag) =
          ([], some (String.ofList tag), .extension) := splitSuffix_language htag
      exact congrArg Prod.fst hsplit

theorem endsInLoneSuffix_iff (hslash : '/' ∉ extension.toList) {front last : List Char}
    (hlast : '/' ∉ last) :
    EndsInLoneSuffix extension (front ++ '/' :: last) ↔
      ∃ tail, isTail tail ∧ last = dotted extension ++ tail := by
  refine exists_congr fun tail => and_congr_right fun htail => ?_
  constructor
  · rintro ⟨stem, hstem⟩
    exact (Text.append_cons_inj_of_notMem_right (slash_notMem_suffix hslash htail) hlast hstem).2.symm
  · rintro rfl
    exact List.suffix_append front _

theorem toList_key_concat (kept : List String) (last : String) (language : Option String)
    (suffix : SuffixForm) :
    (key ⟨kept ++ [last], language, suffix⟩).toList = spelled kept ++ '/' :: last.toList := by
  rw [key, toList_separated (by simp), spelled_append, spelled_singleton]

/-- A path that ends in a segment is among its own sources, unless nothing is left of this
segment. -/
theorem mem_redirectSources_ofSegments_iff {raw last : String} {kept : List String}
    (hlast : last ≠ "" ∧ '/' ∉ last.toList) (hraw : raw.toList = spelled (kept ++ [last])) :
    raw ∈ (ofSegments extension (kept ++ [last])).redirectSources extension ↔
      (splitSuffix extension last.toList).1 ≠ [] := by
  rw [spelled_append, spelled_singleton] at hraw
  rw [ofSegments_concat]
  constructor
  · intro hmem hnil
    obtain ⟨rest, hrest, hend⟩ := exists_of_mem_redirectSources hmem
    have hkept : kept ++ segmentsOf (splitSuffix extension last.toList).1 = kept := by
      rw [hnil]
      exact List.append_nil kept
    rw [hkept, hraw] at hrest
    obtain rfl := List.append_cancel_left hrest
    obtain hend | hend := hend
    · exact hlast.1 (String.toList_eq_nil_iff.mp (List.tail_eq_of_cons_eq hend))
    · exact hend rfl
  · intro hbase
    obtain ⟨base, tag, -, hname, hsplit⟩ | ⟨base, hname, -, hsplit⟩ | ⟨-, hsplit⟩ :=
      splitSuffix_cases extension last.toList
    · rw [hsplit] at hbase ⊢
      rw [hname] at hlast hraw
      have hpiece : '/' ∉ base := fun hm => hlast.2 (by simp [hm])
      rw [segmentsOf_piece hpiece hbase, mem_redirectSources_iff (by simp)]
      refine .inr (.inr (.inr ⟨String.ofList tag, rfl, ?_⟩))
      rw [← String.toList_inj]
      simp only [String.toList_append, toList_key_concat, String.toList_ofList, hraw,
        List.append_assoc]
      rfl
    · rw [hsplit] at hbase ⊢
      rw [hname] at hlast hraw
      have hpiece : '/' ∉ base := fun hm => hlast.2 (by simp [hm])
      rw [segmentsOf_piece hpiece hbase, mem_redirectSources_iff (by simp)]
      refine .inr (.inl ?_)
      rw [← String.toList_inj]
      simp only [String.toList_append, toList_key_concat, String.toList_ofList, hraw,
        List.append_assoc]
      rfl
    · rw [hsplit] at hbase ⊢
      rw [segmentsOf_piece hlast.2 hbase, mem_redirectSources_iff (by simp)]
      refine .inr (.inr (.inl ?_))
      rw [← String.toList_inj, toList_key_concat, String.toList_ofList, hraw]

theorem mem_redirectSources_parse_iff (hslash : '/' ∉ extension.toList) {raw : String}
    (hstart : raw.toList.head? = some '/') (hruns : ¬ ['/', '/'] <:+: raw.toList) :
    raw ∈ (parse extension raw).redirectSources extension ↔
      ¬ EndsInLoneSuffix extension raw.toList := by
  obtain ⟨body, hbody⟩ := List.head?_eq_some_iff.mp hstart
  rw [hbody] at hruns
  obtain ⟨pieces, last, hsplit, hwhole, hlast, hpieces⟩ := Text.exists_splitOn_of_no_runs hruns
  have hraw : raw.toList = spelled (pieces.map String.ofList) ++ '/' :: last := by
    rw [hbody, hwhole, spelled, List.flatMap_map]
    simp only [String.toList_ofList]
  have hfilter : pieces.filter (! ·.isEmpty) = pieces := by
    refine List.filter_eq_self.mpr fun piece hp => ?_
    have hne : piece ≠ [] := fun he => hpieces (he ▸ hp)
    simpa using hne
  have hsegs : segmentsOf raw.toList = pieces.map String.ofList ++ segmentsOf last := by
    rw [hbody, segmentsOf_slash, segmentsOf, segmentsOf, hsplit, List.splitOn_eq_singleton hlast,
      List.filter_append, List.map_append, hfilter]
  rw [parse_eq_ofSegments hslash, hsegs, hraw, endsInLoneSuffix_iff hslash hlast]
  by_cases hend : last = []
  · subst hend
    have hlone : ¬ ∃ tail, isTail tail ∧ [] = dotted extension ++ tail := by simp [dotted]
    rw [if_pos (by simp)]
    refine iff_of_true ?_ hlone
    rw [segmentsOf, List.splitOn_nil, List.filter_cons_of_neg (by simp), List.filter_nil,
      List.map_nil, List.append_nil]
    exact mem_redirectSources_of_slash hraw
  · have hopen : (spelled (pieces.map String.ofList) ++ '/' :: last).getLast? ≠ some '/' := by
      rw [List.getLast?_append_cons, List.getLast?_cons_of_ne_nil hend]
      exact fun h => hlast (List.mem_of_getLast? h)
    rw [if_neg hopen, segmentsOf_piece hlast hend, ← splitSuffix_eq_nil_iff hend]
    have hpiece : String.ofList last ≠ "" ∧ '/' ∉ (String.ofList last).toList := by
      simpa [hend] using hlast
    have hspelled : raw.toList = spelled (pieces.map String.ofList ++ [String.ofList last]) := by
      rw [hraw, spelled_append, spelled_singleton, String.toList_ofList]
    rw [mem_redirectSources_ofSegments_iff hpiece hspelled, String.toList_ofList]

end RequestPath

namespace RedirectDecision

/-- A plain rule of a source decides if no source before it has one, and the sources after it can be
read. -/
theorem resolve_eq_rule_iff {store : Store} (h : store.HasUniqueSources) {path : RequestPath}
    {extension source : String} {before after : List String} {r : RedirectRule}
    (hsources : path.redirectSources extension = before ++ source :: after)
    (hbefore : ∀ s ∈ before, store.LacksPlainRule s)
    (hr : (store.answer (.wildcardRedirect source)).1 = .ok (some r))
    (hplain : r.isWildcard = false) (fallback : Disposition) (maxProbes : Nat) :
    ((resolve path extension fallback maxProbes).run Store.answer store).1 = .ok (.rule r []) ↔
      ∀ s ∈ after, store.Reads s := by
  have htold : (store.answer (.redirect (before ++ source :: after))).1 = .ok (some r) ↔ _ :=
    Store.answer_redirect_eq_rule_iff h hbefore hr hplain
  rw [← hsources] at htold
  obtain ⟨hexact, -⟩ := resolve_cases path extension fallback maxProbes Store.answer store
  have hsome : (store.answer (.redirect (path.redirectSources extension))).1 ≠ .ok none := by
    intro hnone
    have hlacks :=
      (Store.answer_redirect_eq_none_iff h (path.redirectSources_ne_nil extension)).mp hnone
    obtain ⟨found, hfound, hwildcard⟩ := hlacks source (by simp [hsources])
    obtain rfl := Except.ok.inj (hr.symm.trans hfound)
    simp [hplain] at hwildcard
  rw [(hexact hsome).2, ← htold]
  constructor
  · intro hresult
    cases hanswer : (store.answer (.redirect (path.redirectSources extension))).1 with
    | error e => rw [hanswer] at hresult; cases hresult
    | ok found =>
      rw [hanswer] at hresult
      cases found with
      | none => exact absurd hanswer hsome
      | some found =>
        cases hresult
        rfl
  · intro hanswer
    rw [hanswer]
    rfl

/-- A request that starts with a separator and has no runs of them is among the sources that are
tried for it, if and only if its last segment is more than a suffix. A plain rule for just this path
then decides, where no source before it has one and the sources after it can be read. -/
theorem resolve_written_iff {extension raw : String} (hext : Config.isExtension extension)
    (hstart : raw.toList.head? = some '/') (hruns : ¬ ['/', '/'] <:+: raw.toList) :
    let path := RequestPath.parse extension raw
    let sources := path.redirectSources extension
    (raw ∈ sources ↔ ¬ RequestPath.EndsInLoneSuffix extension raw.toList) ∧
    ∀ (store : Store) (before after : List String) (r : RedirectRule) (fallback : Disposition)
      (maxProbes : Nat), store.HasUniqueSources → sources = before ++ raw :: after →
      (∀ source ∈ before, store.LacksPlainRule source) →
      (store.answer (.wildcardRedirect raw)).1 = .ok (some r) → r.isWildcard = false →
        (((resolve path extension fallback maxProbes).run Store.answer store).1 = .ok (.rule r []) ↔
          ∀ source ∈ after, store.Reads source) := by
  obtain ⟨-, -, hslash⟩ := Config.isExtension_iff.mp hext
  intro path sources
  refine ⟨RequestPath.mem_redirectSources_parse_iff hslash hstart hruns, ?_⟩
  intro store before after r fallback maxProbes hunique hsources hbefore hr hplain
  exact resolve_eq_rule_iff hunique hsources hbefore hr hplain fallback maxProbes

end RedirectDecision

namespace LiteralRules

def rule : RedirectRule :=
  ⟨"/intro.html.de", "/einleitung", .permanent⟩

def site : Store :=
  .memory (({} : MemoryStore).putRedirect rule)

/-- The source of a rule for one language is the last of four, after which there is nothing to
read. -/
theorem resolve_written_intro :
    Config.isExtension "html" ∧ "/intro.html.de".toList.head? = some '/' ∧
    ¬ ['/', '/'] <:+: "/intro.html.de".toList ∧
    ¬ RequestPath.EndsInLoneSuffix "html" "/intro.html.de".toList ∧
    (∀ source ∈ ["/intro/", "/intro.html", "/intro"], site.LacksPlainRule source) ∧
    (site.answer (.wildcardRedirect "/intro.html.de")).1 = .ok (some rule) ∧
    ((RedirectDecision.resolve (RequestPath.parse "html" "/intro.html.de") "html" .notFound 64).run
      Store.answer site).1 = .ok (.rule rule []) := by
  have hext : Config.isExtension "html" := by decide +kernel
  have hstart : "/intro.html.de".toList.head? = some '/' := by decide +kernel
  have hruns : ¬ ['/', '/'] <:+: "/intro.html.de".toList := by decide +kernel
  have hsources : (RequestPath.parse "html" "/intro.html.de").redirectSources "html" =
      ["/intro/", "/intro.html", "/intro"] ++ "/intro.html.de" :: [] := by decide +kernel
  have hlacks : ∀ source ∈ ["/intro/", "/intro.html", "/intro"], site.LacksPlainRule source := by
    intro source hsource
    simp only [List.mem_cons, List.not_mem_nil, or_false] at hsource
    obtain rfl | rfl | rfl := hsource <;> exact ⟨none, by decide +kernel, nofun⟩
  have htold : (site.answer (.wildcardRedirect "/intro.html.de")).1 = .ok (some rule) := by
    decide +kernel
  obtain ⟨hmem, hrule⟩ := RedirectDecision.resolve_written_iff hext hstart hruns
  have hlone := hmem.mp (by rw [hsources]; decide)
  have hfound := hrule site _ _ rule .notFound 64 trivial hsources hlacks htold (by decide +kernel)
  exact ⟨hext, hstart, hruns, hlone, hlacks, htold, hfound.mpr nofun⟩

def hiddenSite : Store :=
  .memory (({} : MemoryStore).putRedirect ⟨"/a/.html", "/b", .permanent⟩)

/-- A path whose last segment is nothing but a suffix is read as the path above it. So it is not
among its own sources, and a rule for it is never found. -/
theorem redirectSources_lose_lone_suffix :
    Config.isExtension "html" ∧ "/a/.html".toList.head? = some '/' ∧
    ¬ ['/', '/'] <:+: "/a/.html".toList ∧
    (RequestPath.parse "html" "/a/.html").redirectSources "html" = ["/a/", "/a.html", "/a"] ∧
    ((RedirectDecision.resolve (RequestPath.parse "html" "/a/.html") "html" .notFound 64).run
      Store.answer hiddenSite).1 = .ok (.notFound .notFound) := by
  decide +kernel

end LiteralRules

end ContentServer
