import ContentServer.Directive.Basic
import ContentServer.Proofs.Text.Word

namespace ContentServer

/-- A line end as it is written, or a character that belongs to none. -/
inductive Glyph where
  | crlf
  | cr
  | lf
  | plain (c : Char) (hreturn : c ≠ '\r') (hfeed : c ≠ '\n')

namespace Glyph

def text : Glyph → List Char
  | crlf => ['\r', '\n']
  | cr => ['\r']
  | lf => ['\n']
  | plain c _ _ => [c]

def unified : Glyph → Char
  | crlf | cr | lf => '\n'
  | plain c _ _ => c

theorem unified_ne_return (glyph : Glyph) : glyph.unified ≠ '\r' := by
  cases glyph with
  | plain c hreturn hfeed => exact hreturn
  | crlf | cr | lf => exact nofun

end Glyph

/-- The glyphs of a content. A return right before a line feed makes one line end with it. -/
structure IsSpelling (content : List Char) (glyphs : List Glyph) : Prop where
  whole : glyphs.flatMap Glyph.text = content
  paired : ¬ [.cr, .lf] <:+: glyphs

namespace IsSpelling

theorem cons {content : List Char} {glyphs : List Glyph} (h : IsSpelling content glyphs)
    (glyph : Glyph) (hpair : glyph = .cr → content.head? ≠ some '\n') :
    IsSpelling (glyph.text ++ content) (glyph :: glyphs) := by
  obtain ⟨rfl, hpaired⟩ := h
  refine ⟨rfl, fun hin => ?_⟩
  obtain ⟨rest, hrest⟩ | hin := List.infix_cons_iff.mp hin
  · obtain ⟨rfl, rfl⟩ := List.cons.inj hrest
    exact hpair rfl rfl
  · exact hpaired hin

end IsSpelling

namespace Segment

theorem unifyBreaks_cons {c : Char} (h : c ≠ '\r') (cs : List Char) :
    unifyBreaks (c :: cs) = c :: unifyBreaks cs := by
  rw [unifyBreaks]
  · rintro _ rfl
    exact absurd rfl h
  · exact h

theorem unifyBreaks_return {cs : List Char} (h : cs.head? ≠ some '\n') :
    unifyBreaks ('\r' :: cs) = '\n' :: unifyBreaks cs := by
  rw [unifyBreaks]
  rintro rest rfl
  exact h rfl

theorem head?_flatMap_text_ne {glyphs : List Glyph} (h : glyphs.head? ≠ some .lf) :
    (glyphs.flatMap Glyph.text).head? ≠ some '\n' := by
  cases glyphs with
  | nil => exact nofun
  | cons glyph glyphs =>
    cases glyph with
    | lf => exact absurd rfl h
    | crlf | cr => exact nofun
    | plain c hreturn hfeed => simpa [Glyph.text] using hfeed

theorem unifyBreaks_spelling {content : List Char} {glyphs : List Glyph}
    (h : IsSpelling content glyphs) :
    unifyBreaks content = glyphs.map Glyph.unified := by
  obtain ⟨rfl, hpaired⟩ := h
  induction glyphs with
  | nil => rfl
  | cons glyph glyphs ih =>
    rw [List.infix_cons_iff, not_or] at hpaired
    have hrest := ih hpaired.2
    rw [List.flatMap_cons, List.map_cons, ← hrest]
    cases glyph with
    | crlf => rfl
    | lf => exact unifyBreaks_cons (by decide) _
    | plain c hreturn hfeed => exact unifyBreaks_cons hreturn _
    | cr =>
      refine unifyBreaks_return (head?_flatMap_text_ne fun hlf => hpaired.1 ?_)
      obtain ⟨rest, rfl⟩ := List.head?_eq_some_iff.mp hlf
      exact ⟨rest, rfl⟩

theorem exists_spelling (content : List Char) : ∃ glyphs, IsSpelling content glyphs := by
  fun_induction unifyBreaks content with
  | case1 cs ih =>
    obtain ⟨glyphs, h⟩ := ih
    exact ⟨.crlf :: glyphs, h.cons .crlf nofun⟩
  | case2 cs hcs ih =>
    obtain ⟨glyphs, h⟩ := ih
    refine ⟨.cr :: glyphs, h.cons .cr fun _ hfeed => ?_⟩
    obtain ⟨rest, hrest⟩ := List.head?_eq_some_iff.mp hfeed
    exact hcs rest hrest
  | case3 c cs _ hreturn ih =>
    obtain ⟨glyphs, h⟩ := ih
    by_cases hfeed : c = '\n'
    · subst hfeed
      exact ⟨.lf :: glyphs, h.cons .lf nofun⟩
    · exact ⟨.plain c hreturn hfeed :: glyphs, h.cons (.plain c hreturn hfeed) nofun⟩
  | case4 => exact ⟨[], rfl, by simp⟩

def body : Segment → List Char
  | literal text => text.toList
  | directive body => body.toList

def isDirective : Segment → Bool
  | literal _ => false
  | directive _ => true

def ofBody (inDirective : Bool) (body : List Char) : Segment :=
  if inDirective then directive (String.ofList body) else literal (String.ofList body)

/-- A way to take a content apart at delimiters: literals at even and directives at odd positions,
none with a delimiter in it. -/
structure IsDecomposition (content : List Char) (segments : List Segment) : Prop where
  ne_nil : segments ≠ []
  alternates : ∀ i segment, segments[i]? = some segment → (segment.isDirective ↔ i % 2 = 1)
  free : ∀ segment ∈ segments, ¬ delimiter <:+: segment.body
  joined : delimiter.intercalate (segments.map body) = content

/-- Is each delimiter between the segments the first one after the delimiter before it? -/
def IsLeftmost (segments : List Segment) : Prop :=
  Text.Leftmost delimiter (segments.map body)

@[simp] theorem body_ofBody (inDirective : Bool) (text : List Char) :
    (ofBody inDirective text).body = text := by
  cases inDirective <;> exact String.toList_ofList

@[simp] theorem isDirective_ofBody (inDirective : Bool) (text : List Char) :
    (ofBody inDirective text).isDirective = inDirective := by
  cases inDirective <;> rfl

theorem ofBody_isDirective (segment : Segment) :
    ofBody segment.isDirective segment.body = segment := by
  cases segment with
  | literal text => exact congrArg literal String.ofList_toList
  | directive text => exact congrArg directive String.ofList_toList

theorem getElem?_alternate (inDirective : Bool) (pieces : List (List Char)) (i : Nat) :
    (alternate inDirective pieces)[i]? =
      pieces[i]?.map (ofBody (inDirective != decide (i % 2 = 1))) := by
  induction pieces generalizing inDirective i with
  | nil => rfl
  | cons piece pieces ih =>
    rw [alternate]
    cases i with
    | zero => cases inDirective <;> rfl
    | succ i =>
      have hturn :
          ((!inDirective) != decide (i % 2 = 1)) = (inDirective != decide ((i + 1) % 2 = 1)) := by
        obtain hi | hi := Nat.mod_two_eq_zero_or_one i
        · simp [hi, Nat.add_mod]
        · simp [hi, Nat.add_mod]
      rw [List.getElem?_cons_succ, List.getElem?_cons_succ, ih, hturn]

theorem map_body_alternate (inDirective : Bool) (pieces : List (List Char)) :
    (alternate inDirective pieces).map body = pieces := by
  refine List.ext_getElem? fun i => ?_
  rw [List.getElem?_map, getElem?_alternate, Option.map_map]
  have hbody : body ∘ ofBody (inDirective != decide (i % 2 = 1)) = id := funext (body_ofBody _)
  rw [hbody, Option.map_id, id]

theorem IsDecomposition.alternate_eq {content : List Char} {segments : List Segment}
    (h : IsDecomposition content segments) : alternate false (segments.map body) = segments := by
  refine List.ext_getElem? fun i => ?_
  rw [getElem?_alternate, List.getElem?_map]
  cases hi : segments[i]? with
  | none => rfl
  | some segment =>
    have hturn : (false != decide (i % 2 = 1)) = segment.isDirective := by
      rw [Bool.false_bne, Bool.eq_iff_iff, decide_eq_true_eq, h.alternates i segment hi]
    rw [Option.map_some, Option.map_some, hturn, ofBody_isDirective]

theorem delimiter_ne_nil : delimiter ≠ [] := by decide

theorem map_body_split (content : List Char) :
    (split content).map body = Text.splitWord delimiter content :=
  map_body_alternate false _

theorem isLeftmost_split (content : List Char) : IsLeftmost (split content) := by
  rw [IsLeftmost, map_body_split]
  exact Text.leftmost_splitWord delimiter_ne_nil content

theorem isDecomposition_split (content : List Char) : IsDecomposition content (split content) where
  ne_nil := by
    intro hnil
    have hmap := map_body_split content
    rw [hnil, List.map_nil] at hmap
    exact Text.splitWord_ne_nil delimiter content hmap.symm
  alternates := by
    intro i segment hi
    rw [split, getElem?_alternate] at hi
    obtain ⟨piece, -, rfl⟩ := Option.map_eq_some_iff.mp hi
    rw [isDirective_ofBody, Bool.false_bne, decide_eq_true_eq]
  free := by
    intro segment hsegment
    have hbody := List.mem_map_of_mem (f := body) hsegment
    rw [map_body_split] at hbody
    exact Text.not_infix_of_mem_splitWord delimiter_ne_nil hbody
  joined := by rw [map_body_split, Text.intercalate_splitWord delimiter_ne_nil]

theorem IsDecomposition.eq_split {content : List Char} {segments : List Segment}
    (h : IsDecomposition content segments) (hleft : IsLeftmost segments) :
    segments = split content := by
  have hne : segments.map body ≠ [] := fun hnil => h.ne_nil (List.map_eq_nil_iff.mp hnil)
  have hfree : ∀ piece ∈ segments.map body, ¬ delimiter <:+: piece := by
    intro piece hpiece
    obtain ⟨segment, hsegment, rfl⟩ := List.mem_map.mp hpiece
    exact h.free segment hsegment
  rw [split, ← h.joined, Text.splitWord_intercalate delimiter_ne_nil hne hfree hleft,
    h.alternate_eq]

theorem getLast?_body_ne {content : List Char} {segment : Segment}
    (h : segment ∈ (split content).dropLast) :
    segment.body.getLast? ≠ some '%' := by
  have hbody := List.mem_map_of_mem (f := body) h
  rw [List.map_dropLast, map_body_split] at hbody
  have hleft : Text.Leftmost (List.replicate (2 + 1) '%') (Text.splitWord delimiter content) :=
    Text.leftmost_splitWord delimiter_ne_nil content
  exact hleft.getLast?_ne hbody

/-- Contents are taken apart without loss. Unified, a content has one line feed for each line end,
and no return; all else stays in its place. Of the ways to take it apart at delimiters, the segments
are the one with leftmost delimiters, which leaves the surplus of a long run of percent signs to
what follows it. -/
theorem ofContent_leftmost (content : String) :
    ((∃ glyphs, IsSpelling content.toList glyphs) ∧
      ∀ glyphs, IsSpelling content.toList glyphs →
        unifyBreaks content.toList = glyphs.map Glyph.unified) ∧
    '\r' ∉ unifyBreaks content.toList ∧
    IsDecomposition (unifyBreaks content.toList) (ofContent content) ∧
    (∀ segments, IsDecomposition (unifyBreaks content.toList) segments →
      (IsLeftmost segments ↔ segments = ofContent content)) ∧
    ∀ segment ∈ (ofContent content).dropLast, segment.body.getLast? ≠ some '%' := by
  obtain ⟨glyphs, hglyphs⟩ := exists_spelling content.toList
  refine ⟨⟨⟨glyphs, hglyphs⟩, fun _ => unifyBreaks_spelling⟩, ?_, isDecomposition_split _,
    fun segments h => ⟨h.eq_split, ?_⟩, fun _ => getLast?_body_ne⟩
  · rw [unifyBreaks_spelling hglyphs]
    intro hreturn
    obtain ⟨glyph, -, hglyph⟩ := List.mem_map.mp hreturn
    exact glyph.unified_ne_return hglyph
  · rintro rfl
    exact isLeftmost_split _

example : ofContent "a\r\r\n%%%%b" = [.literal "a\n\n", .directive "%b"] := by decide

end Segment

end ContentServer
