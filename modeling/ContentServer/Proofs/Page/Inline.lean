import ContentServer.Proofs.Page.Isolation
import ContentServer.Proofs.Page.Paragraphs

namespace ContentServer

open Html

/-- Steps that write inline text without brackets and nothing else, and the text that they write. -/
inductive Inline : List Step → List Char → Prop
  | nil : Inline [] []
  | text {f : Fragment} {text : String} {rest : List Step} {more : List Char}
      (htext : f.text = .single text) (hreplace : f.replace = false) (hne : text ≠ "")
      (hplain : Plain text.toList) (hrest : Inline rest more) :
      Inline (.fragment f :: rest) (text.toList ++ more)
  | silent {f : Fragment} {rest : List Step} {more : List Char} (htext : f.text = .none)
      (hreplace : f.replace = false) (hrest : Inline rest more) : Inline (.fragment f :: rest) more
  | empty {rest : List Step} {more : List Char} (hrest : Inline rest more) :
      Inline (.literal [] :: rest) more

theorem Html.Plain.append {text more : List Char} (h : Plain text) (hmore : Plain more) :
    Plain (text ++ more) := by
  simp only [Plain, List.mem_append, not_or]
  exact ⟨⟨h.1, hmore.1⟩, h.2, hmore.2⟩

theorem Inline.slotNames_eq_nil {steps : List Step} {text : List Char} (h : Inline steps text) :
    slotNames steps = [] := by
  induction h with
  | nil => rfl
  | @text f _ _ _ htext _ _ _ _ ih =>
    cases f
    cases htext
    exact ih
  | @silent f _ _ htext _ _ ih =>
    cases f
    cases htext
    exact ih
  | empty _ ih => exact ih

namespace Slots

variable {s : Slots} {slot : SlotName} {stem text : List Char}

theorem step_silent {f : Fragment} (htext : f.text = .none) (hreplace : f.replace = false) :
    s.step (.fragment f) = s := by
  rw [step, htext, hreplace]
  rfl

theorem step_single {f : Fragment} {t : String} (htext : f.text = .single t)
    (hreplace : f.replace = false) : s.step (.fragment f) = s.apply (.single t) false := by
  rw [step, htext, hreplace]

theorem isInline_of_plain (hne : text ≠ []) (h : Plain text) : isInline text := by
  have hhead : text.head? ≠ some '<' := fun he => h.1 (List.mem_of_head? he)
  have hlast : text.getLast? ≠ some '>' := fun he => h.2 (List.mem_of_getLast? he)
  simp [isInline, hne, hhead, hlast]

theorem trimEnd_closing (stem : List Char) :
    Text.trimEnd (stem ++ closingParagraph) = stem ++ closingParagraph := by
  have hlast : stem ++ closingParagraph = (stem ++ "</p".toList) ++ ['>'] := by
    rw [List.append_assoc]
    rfl
  rw [hlast, Text.trimEnd_eq, List.rdropWhile_concat_neg _ _ _ (by decide)]

theorem not_closing_suffix_append (hstem : ¬closingParagraph <:+ Text.trimEnd stem) (h : Plain text) :
    ¬closingParagraph <:+ Text.trimEnd (stem ++ text) := by
  obtain htrim | ⟨kept, htrim, hne, hstart⟩ := Text.trimEnd_append_cases stem text
  · rwa [htrim]
  · -- what is left ends in a character of `text`, which is no bracket
    rw [htrim]
    rintro ⟨before, hbefore⟩
    have hlast : (stem ++ kept).getLast? = some '>' := by
      rw [← hbefore]
      exact List.getLast?_append_of_ne_nil before (List.cons_ne_nil _ _)
    rw [List.getLast?_append_of_ne_nil stem hne] at hlast
    exact h.2 (hstart.subset (List.mem_of_getLast? hlast))

/-- The active slot takes literals and ends in a paragraph that is open. -/
structure Open (slot : SlotName) (text : List Char) (s : Slots) : Prop where
  active : s.active = slot
  pending : s.pending
  buffer : s.buffer slot = { text }

theorem open_apply_single {blanks : List Char}
    (hbuffer : s.buffer s.active = { text := stem ++ closingParagraph ++ blanks })
    (hblanks : ∀ c ∈ blanks, Text.isBlank c) {t : String} (hinline : isInline t.toList) :
    Open s.active (stem ++ t.toList) (s.apply (.single t) false) := by
  have hstem :
      List.isSuffixOf? closingParagraph (Text.trimEnd (s.buffer s.active).text) = some stem := by
    rw [hbuffer, Text.trimEnd_append_of_blank _ hblanks, trimEnd_closing]
    exact List.isSuffixOf?_eq_some_iff_append_eq.mpr rfl
  have hstitch : s.stitch t.toList =
      { s.modify s.active (fun b => { b with text := stem }) with pending := true } := by
    rw [stitch, if_pos hinline, hstem]
  have happly : s.apply (.single t) false = (s.stitch t.toList).push t.toList := rfl
  rw [happly]
  refine ⟨?_, ?_, ?_⟩
  · rw [active_push, active_stitch]
  · rw [hstitch]
    exact pending_modify _ _ _
  · rw [buffer_push (active_stitch s t.toList), hstitch, buffer_pending, buffer_modify_self,
      hbuffer]

namespace Open

theorem apply_single (h : Open slot text s) (hclosing : ¬closingParagraph <:+ Text.trimEnd text)
    (t : String) : Open slot (text ++ t.toList) (s.apply (.single t) false) := by
  have hsuffix : closingParagraph.isSuffixOf (Text.trimEnd text) = false :=
    Bool.eq_false_iff.mpr fun hs => hclosing (List.isSuffixOf_iff_suffix.mp hs)
  have hstitches : s.stitches t.toList = false := by
    rw [stitches, h.active, h.buffer, hsuffix, Bool.and_false]
  have happly : s.apply (.single t) false = s.push t.toList := by
    rw [apply, if_neg Bool.false_ne_true, stitch_of_not_stitches hstitches]
  rw [happly]
  refine ⟨?_, ?_, ?_⟩
  · rw [active_push, h.active]
  · exact (pending_modify s s.active _).trans h.pending
  · rw [buffer_push h.active, h.buffer]

theorem run (h : Open slot (stem ++ text) s) (hstem : ¬closingParagraph <:+ Text.trimEnd stem)
    (htext : Plain text) {steps : List Step} {more : List Char} (hsteps : Inline steps more) :
    Open slot (stem ++ text ++ more) (steps.foldl step s) := by
  induction hsteps generalizing s text with
  | nil => rwa [List.append_nil]
  | @text f t rest more hsingle hreplace _ hplain _ ih =>
    have hnext : Open slot (stem ++ (text ++ t.toList)) (s.step (.fragment f)) := by
      rw [step_single hsingle hreplace, ← List.append_assoc]
      exact h.apply_single (not_closing_suffix_append hstem htext) t
    rw [List.foldl_cons, ← List.append_assoc, List.append_assoc stem]
    exact ih hnext (htext.append hplain)
  | @silent f rest more hnone hreplace _ ih =>
    rw [List.foldl_cons, step_silent hnone hreplace]
    exact ih h htext
  | empty _ ih => exact ih h htext

theorem settle (h : Open slot text s) :
    s.settle.buffer slot = { text := text ++ closingParagraph } := by
  rw [Slots.settle, if_pos h.pending, buffer_pending, buffer_push h.active, h.buffer]

theorem acceptsLiterals (h : Open slot text s) : s.acceptsLiterals := by
  rw [Slots.acceptsLiterals, h.active, h.buffer]
  rfl

theorem pushLiteral_opening (h : Open slot text s) (rest : List Char) :
    (s.pushLiteral (openingParagraph ++ rest)).buffer slot = { text := text ++ rest } := by
  have hopens : List.isPrefixOf? openingParagraph (openingParagraph ++ rest) = some rest :=
    List.isPrefixOf?_eq_some_iff_append_eq.mpr rfl
  have hpush :
      s.pushLiteral (openingParagraph ++ rest) = { s.push rest with pending := false } := by
    rw [pushLiteral, h.acceptsLiterals, h.pending, hopens]
    rfl
  rw [hpush, buffer_pending, buffer_push h.active, h.buffer]

theorem pushLiteral_other (h : Open slot text s) {html : List Char} (hne : html ≠ [])
    (hopening : ¬openingParagraph <+: html) :
    (s.pushLiteral html).buffer slot = { text := text ++ closingParagraph ++ html } := by
  have hopens : List.isPrefixOf? openingParagraph html = none := by
    cases hrest : List.isPrefixOf? openingParagraph html with
    | none => rfl
    | some rest => exact absurd ⟨rest, List.isPrefixOf?_eq_some_iff_append_eq.mp hrest⟩ hopening
  have hpush : s.pushLiteral html = s.settle.push html := by
    rw [pushLiteral, h.acceptsLiterals, h.pending, hopens, List.isEmpty_eq_false_iff.mpr hne]
    rfl
  have hactive : s.settle.active = slot := (active_settle s).trans h.active
  rw [hpush, buffer_push hactive, h.settle]

theorem switch (h : Open slot text s) (name : String) :
    (s.switch name).buffer slot = { text := text ++ closingParagraph } := by
  rw [buffer_switch, h.settle]

theorem finish (h : Open slot text s) (hslot : slot = .unnamed → s.settle.named.isEmpty) :
    s.settle.text.at? slot = some (String.ofList (text ++ closingParagraph)) := by
  have hsettle := h.settle
  cases slot with
  | unnamed =>
    have hunnamed : s.settle.unnamed = { text := text ++ closingParagraph } := hsettle
    rw [at?_text_unnamed, if_pos (hslot rfl), hunnamed]
  | named name =>
    rw [buffer_eq_held?] at hsettle
    cases hheld : s.settle.held? (.named name) with
    | none =>
      rw [hheld] at hsettle
      have hnil : [] = text ++ closingParagraph := congrArg Buffer.text hsettle
      exact absurd hnil.symm (List.append_ne_nil_of_right_ne_nil text (List.cons_ne_nil _ _))
    | some b =>
      rw [hheld, Option.getD_some] at hsettle
      rw [at?_text_named, hheld, hsettle]
      rfl

end Open

/-- However many pieces of inline text follow a paragraph, the first alone opens it again. -/
theorem open_run {blanks : List Char}
    (hbuffer : s.buffer s.active = { text := stem ++ closingParagraph ++ blanks })
    (hblanks : ∀ c ∈ blanks, Text.isBlank c) (hstem : ¬closingParagraph <:+ Text.trimEnd stem)
    {steps : List Step} (hsteps : Inline steps text) (hne : text ≠ []) :
    Open s.active (stem ++ text) (steps.foldl step s) := by
  induction hsteps with
  | nil => exact absurd rfl hne
  | @text f t rest more hsingle hreplace ht hplain hrest =>
    have hinline : isInline t.toList := isInline_of_plain (by simpa using ht) hplain
    have hfirst : Open s.active (stem ++ t.toList) (s.step (.fragment f)) := by
      rw [step_single hsingle hreplace]
      exact open_apply_single hbuffer hblanks hinline
    rw [List.foldl_cons, ← List.append_assoc]
    exact hfirst.run hstem hplain hrest
  | @silent f rest more hnone hreplace _ ih =>
    rw [List.foldl_cons, step_silent hnone hreplace]
    exact ih hne
  | empty _ ih => exact ih hne

theorem isEmpty_named_run (hactive : s.active = .unnamed) {steps : List Step}
    (hsteps : Inline steps text) (h : s.named.isEmpty) :
    (steps.foldl step s).settle.named.isEmpty := by
  have hopened : s.Has s.active := by
    rw [hactive]
    rfl
  obtain ⟨hlast, hrun⟩ := has_run hopened steps
  rw [isEmpty_named_iff] at h ⊢
  intro name hname
  rw [has_settle hlast, hrun, hsteps.slotNames_eq_nil] at hname
  obtain hname | ⟨_, hmem, _⟩ := hname
  · exact h name hname
  · cases hmem

end Slots

namespace Draft

/-- Inline text after a paragraph is written into it, in place of its closing tag and the blanks
after that. A paragraph that follows goes on where the inline text ends; anything else, another slot
and the end of the page close the paragraph first. -/
theorem joins_inline {d : Draft} {stem blanks text : List Char} {steps : List Step}
    (haccepts : d.slots.acceptsLiterals)
    (hbuffer : (d.slots.buffer d.slots.active).text = stem ++ closingParagraph ++ blanks)
    (hblanks : ∀ c ∈ blanks, Text.isBlank c) (hstem : ¬closingParagraph <:+ Text.trimEnd stem)
    (hsteps : Inline steps text) (hne : text ≠ []) :
    ((steps.foldl step d).slots.buffer d.slots.active).text = stem ++ text ∧
    (∀ rest, (((steps.foldl step d).pushLiteral (openingParagraph ++ rest)).slots.buffer
      d.slots.active).text = stem ++ text ++ rest) ∧
    (∀ html, html ≠ [] → ¬openingParagraph <+: html →
      (((steps.foldl step d).pushLiteral html).slots.buffer d.slots.active).text =
        stem ++ text ++ closingParagraph ++ html) ∧
    (∀ name, (((steps.foldl step d).switch name).slots.buffer d.slots.active).text =
      stem ++ text ++ closingParagraph) ∧
    ((steps.foldl step d).slots.settle.buffer d.slots.active).text =
      stem ++ text ++ closingParagraph ∧
    ((d.slots.active = .unnamed → d.slots.named.isEmpty) →
      (steps.foldl step d).finish.text.at? d.slots.active =
        some (String.ofList (stem ++ text ++ closingParagraph))) := by
  have howned : (d.slots.buffer d.slots.active).owned = false := by
    simpa [Slots.acceptsLiterals] using haccepts
  have hwhole : d.slots.buffer d.slots.active = { text := stem ++ closingParagraph ++ blanks } := by
    rw [← hbuffer, ← howned]
  have hopen := Slots.open_run hwhole hblanks hstem hsteps hne
  have hnamed := fun (hactive : d.slots.active = .unnamed) (h : d.slots.named.isEmpty) =>
    Slots.isEmpty_named_run hactive hsteps h
  rw [← slots_foldl] at hopen hnamed
  refine ⟨congrArg Buffer.text hopen.buffer, fun rest => ?_, fun html hhtml hopening => ?_,
    fun name => ?_, congrArg Buffer.text hopen.settle,
    fun hslot => hopen.finish fun hactive => hnamed hactive (hslot hactive)⟩
  · exact congrArg Buffer.text (hopen.pushLiteral_opening rest)
  · exact congrArg Buffer.text (hopen.pushLiteral_other hhtml hopening)
  · exact congrArg Buffer.text (hopen.switch name)

def hello : Draft :=
  run [.literal "<p>Hello</p>\n".toList]

def twice : List Step :=
  [.fragment { text := .single " A" }, .literal [], .fragment { title := some "Greeting" },
    .fragment { text := .single "B" }]

theorem inline_twice : Inline twice " AB".toList := by
  have hsecond : Inline [.fragment { text := .single "B" }] ("B".toList ++ []) :=
    .text rfl rfl (by decide) (by decide) .nil
  have hboth : Inline twice (" A".toList ++ ("B".toList ++ [])) :=
    .text rfl rfl (by decide) (by decide) (.empty (.silent rfl rfl hsecond))
  exact hboth

theorem joins_inline_twice :
    hello.slots.acceptsLiterals ∧ Inline twice " AB".toList ∧
      ((twice.foldl step hello).slots.buffer .unnamed).text = "<p>Hello AB".toList ∧
      (((twice.foldl step hello).pushLiteral "<p> end</p>".toList).slots.buffer .unnamed).text =
        "<p>Hello AB end</p>".toList ∧
      (((twice.foldl step hello).pushLiteral "<hr>".toList).slots.buffer .unnamed).text =
        "<p>Hello AB</p><hr>".toList ∧
      (((twice.foldl step hello).switch "side").slots.buffer .unnamed).text =
        "<p>Hello AB</p>".toList ∧
      ((twice.foldl step hello).slots.settle.buffer .unnamed).text = "<p>Hello AB</p>".toList ∧
      (twice.foldl step hello).finish.text.at? .unnamed = some "<p>Hello AB</p>" := by
  have haccepts : hello.slots.acceptsLiterals := by decide +kernel
  have hbuffer : (hello.slots.buffer hello.slots.active).text =
      "<p>Hello".toList ++ closingParagraph ++ ['\n'] := by decide +kernel
  have hblanks : ∀ c ∈ ['\n'], Text.isBlank c := List.forall_mem_singleton.mpr rfl
  have hstem : ¬closingParagraph <:+ Text.trimEnd "<p>Hello".toList := by decide
  obtain ⟨hjoined, hparagraph, hother, hswitch, hsettled, hfinish⟩ :=
    joins_inline haccepts hbuffer hblanks hstem inline_twice (by decide)
  exact ⟨haccepts, inline_twice, hjoined, hparagraph " end</p>".toList,
    hother "<hr>".toList (by decide) (by decide), hswitch "side", hsettled,
    hfinish fun _ => by decide +kernel⟩

end Draft

end ContentServer
