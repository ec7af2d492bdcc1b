import ContentServer.Proofs.Html.Tags
import ContentServer.Proofs.Page.Run
import ContentServer.Proofs.Text.Blank

namespace ContentServer

open Html

/-- Inline text without brackets, or complete paragraphs. -/
def Html.Tidy (text : List Char) : Prop :=
  if Slots.isInline text then Plain text else Paragraphs text

def FragmentText.Tidy : FragmentText → Prop
  | .none => True
  | .single text => Html.Tidy text.toList
  | .slots texts => ∀ entry ∈ texts.entries, Html.Tidy entry.2.toList

def Step.Tidy : Step → Prop
  | .switch _ => True
  | .literal html => Paragraphs html
  | .notice _ => True
  | .fragment f => f.text.Tidy

theorem Html.Tidy.balanced {text : List Char} (h : Html.Tidy text) : Balanced text := by
  unfold Html.Tidy at h
  split at h
  · exact h.balanced
  · exact h.balanced

theorem Html.Tidy.of_inline {text : List Char} (hinline : Slots.isInline text) (h : Plain text) :
    Html.Tidy text := by
  rw [Html.Tidy, if_pos hinline]
  exact h

theorem Html.Tidy.of_paragraph {inner : List Char} (h : Plain inner) :
    Html.Tidy (openingParagraph ++ inner ++ closingParagraph) := by
  have hblock : Slots.isInline (openingParagraph ++ inner ++ closingParagraph) = false := rfl
  rw [Html.Tidy, hblock]
  exact .single h

namespace Slots

/-- Does inline text find a paragraph to join at the end of the active slot? -/
def stitches (s : Slots) (text : List Char) : Bool :=
  isInline text && closingParagraph.isSuffixOf (Text.trimEnd (s.buffer s.active).text)

/-- Does a step open a paragraph of the slot again while one of it is still open? -/
def overdraws (s : Slots) (slot : SlotName) : Step → Bool
  | .fragment { text := .single text, replace := false, .. } =>
    decide (slot = s.active) && s.pending && s.stitches text.toList
  | _ => false

def claims (s : Slots) (slot : SlotName) : Step → Bool
  | .fragment { text := .slots texts, replace := true, .. } =>
    texts.entries.any fun entry => decide (slot = .named entry.1)
  | .fragment { replace := true, .. } => decide (slot = s.active)
  | _ => false

/-- The closing tags that a slot is short of after a step, if it was short of `lost` before. -/
def lose (s : Slots) (slot : SlotName) (lost : Nat) (step : Step) : Nat :=
  if s.claims slot step then 0 else if s.overdraws slot step then lost + 1 else lost

def lost (slot : SlotName) : List Step → Slots → Nat → Nat
  | [], _, lost => lost
  | first :: rest, s, lost => Slots.lost slot rest (s.step first) (s.lose slot lost first)

def owed (s : Slots) (slot : SlotName) : Nat :=
  if s.pending ∧ slot = s.active then 1 else 0

/-- What a slot holds is whole, and closes what it opens but for a closing tag owed and those
lost. -/
structure Accounted (s : Slots) (slot : SlotName) (lost : Nat) : Prop where
  whole : Whole (s.buffer slot).text
  counts : openings (s.buffer slot).text = closings (s.buffer slot).text + lost + s.owed slot

variable {s : Slots} {slot : SlotName} {n : Nat}

theorem owed_eq (s : Slots) : s.owed s.active = if s.pending then 1 else 0 := by
  simp [owed]

theorem owed_of_ne (h : slot ≠ s.active) : s.owed slot = 0 := by
  simp [owed, h]

theorem owed_of_not_pending (h : s.pending = false) (slot : SlotName) : s.owed slot = 0 := by
  simp [owed, h]

@[simp] theorem buffer_pending (s : Slots) (pending : Bool) (slot : SlotName) :
    Slots.buffer { s with pending := pending } slot = s.buffer slot := by
  cases slot <;> rfl

@[simp] theorem owed_modify (target : SlotName) (f : Buffer → Buffer) :
    (s.modify target f).owed slot = s.owed slot := by
  simp only [owed, pending_modify, active_modify]

theorem buffer_switch (s : Slots) (name : String) (slot : SlotName) :
    (s.switch name).buffer slot = s.settle.buffer slot := by
  have hmodify : (s.switch name).buffer slot = (s.settle.modify (.named name) id).buffer slot := by
    cases slot <;> rfl
  rw [hmodify]
  by_cases hslot : slot = .named name
  · subst hslot
    exact buffer_modify_self s.settle (.named name) id
  · exact buffer_modify_of_ne s.settle hslot id

theorem text_append_self (s : Slots) (slot : SlotName) (text : List Char) :
    ((s.append slot text).buffer slot).text = (s.buffer slot).text ++ text := by
  rw [append, buffer_modify_self]

theorem stitch_of_not_stitches {text : List Char} (h : s.stitches text = false) :
    s.stitch text = s := by
  unfold stitch
  split
  · next hinline =>
    split
    · next stem hstem =>
      have hsuffix : closingParagraph <:+ Text.trimEnd (s.buffer s.active).text :=
        ⟨stem, List.isSuffixOf?_eq_some_iff_append_eq.mp hstem⟩
      rw [stitches, hinline, List.isSuffixOf_iff_suffix.mpr hsuffix] at h
      cases h
    · rfl
  · rfl

theorem exists_stem {text : List Char} (h : s.stitches text) :
    ∃ stem blanks, (s.buffer s.active).text = stem ++ closingParagraph ++ blanks ∧ '<' ∉ blanks ∧
      s.stitch text =
        { s.modify s.active (fun b => { b with text := stem }) with pending := true } := by
  rw [stitches, Bool.and_eq_true, List.isSuffixOf_iff_suffix] at h
  obtain ⟨hinline, stem, hstem⟩ := h
  refine ⟨stem, (s.buffer s.active).text.rtakeWhile Text.isBlank, ?_, ?_, ?_⟩
  · rw [hstem, Text.trimEnd_eq, List.rdropWhile_append_rtakeWhile]
  · intro hmem
    exact absurd (List.mem_rtakeWhile_imp hmem) (by decide)
  · rw [stitch, if_pos hinline, List.isSuffixOf?_eq_some_iff_append_eq.mpr hstem]

namespace Accounted

theorem empty (slot : SlotName) : Accounted {} slot 0 := by
  cases slot <;> exact ⟨.nil, rfl⟩

theorem frame {t : Slots} (h : Accounted s slot n)
    (htext : (t.buffer slot).text = (s.buffer slot).text) (howed : t.owed slot = s.owed slot) :
    Accounted t slot n := by
  refine ⟨?_, ?_⟩
  · rw [htext]
    exact h.whole
  · rw [htext, howed]
    exact h.counts

theorem append (h : Accounted s slot n) (target : SlotName) {text : List Char}
    (htext : Balanced text) :
    Accounted (s.append target text) slot n := by
  by_cases ht : slot = target
  · subst ht
    refine ⟨?_, ?_⟩
    · rw [text_append_self]
      exact h.whole.append htext.whole
    · have hcounts := h.counts
      rw [text_append_self, openings_append h.whole, closings_append h.whole, htext.counts,
        Slots.append, owed_modify]
      omega
  · refine h.frame ?_ (owed_modify target _)
    rw [Slots.append, buffer_modify_of_ne s ht]

theorem pay (h : Accounted s slot n) (hp : s.pending) {text : List Char} (hwhole : Whole text)
    (hcounts : openings text + 1 = closings text) :
    Accounted { s.push text with pending := false } slot n := by
  by_cases ht : slot = s.active
  · subst ht
    have howed := h.counts
    rw [owed_eq, if_pos hp] at howed
    refine ⟨?_, ?_⟩
    · rw [buffer_pending, push, text_append_self]
      exact h.whole.append hwhole
    · rw [buffer_pending, push, text_append_self, openings_append h.whole, closings_append h.whole,
        owed_of_not_pending rfl]
      omega
  · refine h.frame ?_ ?_
    · rw [buffer_pending, push, Slots.append, buffer_modify_of_ne s ht]
    · rw [owed_of_not_pending rfl, owed_of_ne ht]

theorem settle (h : Accounted s slot n) : Accounted s.settle slot n := by
  unfold Slots.settle
  split
  · next hp => exact h.pay hp (whole_tag plain_closing) rfl
  · exact h

theorem switch (h : Accounted s slot n) (name : String) : Accounted (s.switch name) slot n := by
  have hpending : (s.switch name).pending = false := pending_settle s
  refine h.settle.frame ?_ ?_
  · rw [buffer_switch]
  · rw [owed_of_not_pending hpending, owed_of_not_pending (pending_settle s)]

theorem pushLiteral (h : Accounted s slot n) {html : List Char} (hhtml : Balanced html) :
    Accounted (s.pushLiteral html) slot n := by
  unfold Slots.pushLiteral
  split
  · exact h
  · split
    · next hp =>
      split
      · next rest hrest =>
        -- the literal goes on with the open paragraph and closes it
        have hall := List.isPrefixOf?_eq_some_iff_append_eq.mp hrest
        rw [← hall] at hhtml
        obtain ⟨hwhole, hcounts⟩ := hhtml.of_opening_append
        exact h.pay hp hwhole hcounts
      · exact h.settle.append _ hhtml
    · exact h.append _ hhtml

theorem claim (h : Accounted s slot n) (target : SlotName) :
    Accounted (s.claim target) slot (if slot = target then 0 else n) := by
  by_cases ht : slot = target
  · subst ht
    have hempty : (s.claim slot).buffer slot = { owned := true } := by
      rw [Slots.claim, buffer_pending, buffer_modify_self]
    have howed : (s.claim slot).owed slot = 0 := by
      simp [Slots.claim, owed]
    rw [if_pos rfl]
    refine ⟨?_, ?_⟩
    · rw [hempty]
      exact .nil
    · rw [hempty, howed]
      rfl
  · rw [if_neg ht]
    refine h.frame ?_ ?_
    · rw [Slots.claim, buffer_pending, buffer_modify_of_ne s ht]
    · by_cases ha : slot = s.active
      · have hta : target ≠ s.active := fun he => ht (ha.trans he.symm)
        simp [Slots.claim, owed, hta]
      · simp [Slots.claim, owed, ha]

/-- Opening a paragraph again shifts a closing tag from the text to what is owed; if one was owed
already, it is lost. -/
theorem stitch (h : Accounted s slot n) (text : List Char) :
    Accounted (s.stitch text) slot
      (if slot = s.active ∧ s.pending ∧ s.stitches text then n + 1 else n) := by
  cases hs : s.stitches text with
  | false =>
    rw [stitch_of_not_stitches hs]
    simpa using h
  | true =>
    obtain ⟨stem, blanks, htext, hblanks, hstitch⟩ := exists_stem hs
    rw [hstitch]
    by_cases ha : slot = s.active
    · subst ha
      have hwhole := h.whole
      have hcounts := h.counts
      rw [htext] at hwhole hcounts
      obtain ⟨hstem, hopenings, hclosings⟩ := hwhole.of_append_closing hblanks
      rw [hopenings, hclosings, owed_eq] at hcounts
      refine ⟨?_, ?_⟩
      · rw [buffer_pending, buffer_modify_self]
        exact hstem
      · rw [buffer_pending, buffer_modify_self]
        simp only [owed, active_modify, true_and, and_self, and_true, if_true]
        split at hcounts
        · next hp =>
          -- the debt was open and cannot grow
          rw [if_pos hp]
          omega
        · next hp =>
          rw [if_neg hp]
          omega
    · rw [if_neg fun hc => ha hc.1]
      refine h.frame ?_ ?_
      · rw [buffer_pending, buffer_modify_of_ne s ha]
      · simp [owed, ha]

theorem applySlot (h : Accounted s slot n) (replace : Bool) {entry : String × String}
    (hentry : Html.Tidy entry.2.toList) :
    Accounted (Slots.applySlot replace s entry) slot
      (if replace && decide (slot = .named entry.1) then 0 else n) := by
  cases replace with
  | false => exact h.append (.named entry.1) hentry.balanced
  | true =>
    simpa [Slots.applySlot] using
      (h.claim (.named entry.1)).append (.named entry.1) hentry.balanced

theorem applySlots (h : Accounted s slot n) (replace : Bool) {entries : List (String × String)}
    (hentries : ∀ entry ∈ entries, Html.Tidy entry.2.toList) :
    Accounted (entries.foldl (Slots.applySlot replace) s) slot
      (if replace && entries.any (fun entry => decide (slot = .named entry.1)) then 0 else n) := by
  induction entries generalizing s n with
  | nil => simpa using h
  | cons entry rest ih =>
    have hfirst := h.applySlot replace (hentries entry List.mem_cons_self)
    have hall := ih hfirst fun e he => hentries e (List.mem_cons_of_mem _ he)
    rw [List.foldl_cons, List.any_cons]
    cases replace with
    | false => exact hall
    | true =>
      by_cases hslot : slot = .named entry.1
      · simpa [hslot] using hall
      · rw [decide_eq_false hslot] at hall ⊢
        exact hall

theorem apply (h : Accounted s slot n) (f : Fragment) (hf : f.text.Tidy) :
    Accounted (s.apply f.text f.replace) slot (s.lose slot n (.fragment f)) := by
  obtain ⟨text, _, _, _, _, _, _, _, _, replace⟩ := f
  cases text with
  | none =>
    cases replace with
    | false => exact h
    | true => simpa [Slots.apply, lose, claims, overdraws] using h.claim s.active
  | single text =>
    have htext : Balanced text.toList := Html.Tidy.balanced hf
    cases replace with
    | false =>
      have hstitched := (h.stitch text.toList).append (s.stitch text.toList).active htext
      simpa [Slots.apply, Slots.push, lose, claims, overdraws, and_assoc] using hstitched
    | true =>
      have hclaimed := (h.claim s.active).append (s.claim s.active).active htext
      simpa [Slots.apply, Slots.push, lose, claims, overdraws] using hclaimed
  | slots texts =>
    have hall := h.applySlots replace hf
    cases replace with
    | false => exact hall
    | true => exact hall

theorem notice (h : Accounted s slot n) (message : String) :
    Accounted (s.pushNotice message) slot n := by
  have hopen : Plain "div class=\"directive-error\"".toList := by decide
  have hclose : Plain "/div".toList := by decide
  have hescaped := (plain_escape message).balanced
  refine h.append s.active ((Balanced.append ?_ hescaped).append ?_)
  · exact balanced_tag hopen (by decide) (by decide)
  · exact balanced_tag hclose (by decide) (by decide)

theorem step (h : Accounted s slot n) {step : Step} (hstep : step.Tidy) :
    Accounted (s.step step) slot (s.lose slot n step) := by
  cases step with
  | switch name => exact h.switch name
  | literal html => exact h.pushLiteral (Paragraphs.balanced hstep)
  | notice message => exact h.notice message
  | fragment f => exact h.apply f hstep

theorem run (h : Accounted s slot n) {steps : List Step} (hsteps : ∀ step ∈ steps, step.Tidy) :
    Accounted (steps.foldl Slots.step s) slot (Slots.lost slot steps s n) := by
  induction steps generalizing s n with
  | nil => exact h
  | cons first rest ih =>
    rw [List.foldl_cons, lost]
    exact ih (h.step (hsteps first List.mem_cons_self)) fun step hmem =>
      hsteps step (List.mem_cons_of_mem _ hmem)

end Accounted

def Claimed (slot : SlotName) : List Step → Slots → Prop
  | [], _ => False
  | first :: rest, s => s.claims slot first ∨ Claimed slot rest (s.step first)

/-- Whenever a step opens a paragraph of the slot again while another is open, the slot is emptied
afterwards. -/
def Recovers (slot : SlotName) : List Step → Slots → Prop
  | [], _ => True
  | first :: rest, s =>
    (s.overdraws slot first → Claimed slot rest (s.step first)) ∧ Recovers slot rest (s.step first)

instance decidableClaimed (slot : SlotName) :
    (steps : List Step) → (s : Slots) → Decidable (Claimed slot steps s)
  | [], _ => inferInstanceAs (Decidable False)
  | first :: rest, s =>
    have := decidableClaimed slot rest (s.step first)
    inferInstanceAs (Decidable (_ ∨ _))

instance decidableRecovers (slot : SlotName) :
    (steps : List Step) → (s : Slots) → Decidable (Recovers slot steps s)
  | [], _ => inferInstanceAs (Decidable True)
  | first :: rest, s =>
    have := decidableRecovers slot rest (s.step first)
    inferInstanceAs (Decidable (_ ∧ _))

theorem not_overdraws_of_claims {step : Step} (h : s.claims slot step) :
    ¬s.overdraws slot step := by
  cases step with
  | switch name => cases h
  | literal html => cases h
  | notice message => cases h
  | fragment f =>
    obtain ⟨text, _, _, _, _, _, _, _, _, replace⟩ := f
    cases replace with
    | false => cases text <;> cases h
    | true => cases text <;> exact Bool.false_ne_true

theorem lost_eq_zero_iff (steps : List Step) (s : Slots) (n : Nat) :
    lost slot steps s n = 0 ↔ (n = 0 ∨ Claimed slot steps s) ∧ Recovers slot steps s := by
  induction steps generalizing s n with
  | nil => simp [lost, Claimed, Recovers]
  | cons first rest ih =>
    rw [lost, ih, Claimed, Recovers, lose]
    by_cases hc : s.claims slot first
    · have ho := not_overdraws_of_claims hc
      simp [hc, ho]
    · by_cases ho : s.overdraws slot first
      · simp [hc, ho]
        tauto
      · simp [hc, ho]

end Slots

namespace Draft

variable {steps : List Step} {slot : SlotName} {text : String}

theorem openings_finish (hsteps : ∀ step ∈ steps, step.Tidy)
    (htext : (run steps).finish.text.at? slot = some text) :
    openings text.toList = closings text.toList + Slots.lost slot steps {} 0 := by
  have hrun := (Slots.Accounted.empty slot).run hsteps
  have hslots : (run steps).slots = steps.foldl Slots.step {} := slots_foldl steps {}
  rw [← hslots] at hrun
  have hcounts := hrun.settle.counts
  rw [Slots.owed_of_not_pending (Slots.pending_settle _)] at hcounts
  rw [Slots.text_at? htext, String.toList_ofList]
  exact hcounts

/-- A slot of the finished page never closes more paragraphs than it opens, and it closes them all
exactly if each loss of a closing tag was made good by emptying the slot. -/
theorem finish_balanced_iff (hsteps : ∀ step ∈ steps, step.Tidy)
    (htext : (run steps).finish.text.at? slot = some text) :
    closings text.toList ≤ openings text.toList ∧
      (openings text.toList = closings text.toList ↔ Slots.Recovers slot steps {}) := by
  have hcounts := openings_finish hsteps htext
  have hlost : Slots.lost slot steps {} 0 = 0 ↔ _ := Slots.lost_eq_zero_iff steps {} 0
  refine ⟨by omega, ?_⟩
  rw [hcounts, Nat.add_eq_left, hlost]
  simp

def joinedAround (text : String) : List Step :=
  [.literal (openingParagraph ++ "Hello".toList ++ closingParagraph),
    .fragment { text := .single " there" }, .fragment { text := .single text },
    .fragment { text := .single " too" }]

theorem joinedAround_tidy {text : String} (h : Html.Tidy text.toList) :
    ∀ step ∈ joinedAround text, step.Tidy := by
  have hthere : Html.Tidy " there".toList := Html.Tidy.of_inline (by decide) (by decide)
  have htoo : Html.Tidy " too".toList := Html.Tidy.of_inline (by decide) (by decide)
  intro step hstep
  simp only [joinedAround, List.mem_cons, List.not_mem_nil, or_false] at hstep
  obtain rfl | rfl | rfl | rfl := hstep
  · exact Paragraphs.single (by decide)
  · exact hthere
  · exact h
  · exact htoo

theorem joinedAround_inline :
    Html.Tidy " you".toList ∧ Slots.Recovers .unnamed (joinedAround " you") {} ∧
      (run (joinedAround " you")).finish.text.at? .unnamed = some "<p>Hello there you too</p>" ∧
      closings "<p>Hello there you too</p>".toList ≤ openings "<p>Hello there you too</p>".toList ∧
      (openings "<p>Hello there you too</p>".toList = closings "<p>Hello there you too</p>".toList ↔
        Slots.Recovers .unnamed (joinedAround " you") {}) := by
  have hyou : Html.Tidy " you".toList := Html.Tidy.of_inline (by decide) (by decide)
  have htext : (run (joinedAround " you")).finish.text.at? .unnamed =
      some "<p>Hello there you too</p>" := by decide +kernel
  exact ⟨hyou, by decide +kernel, htext, finish_balanced_iff (joinedAround_tidy hyou) htext⟩

/-- A block after inline text does not close the paragraph, and the next inline text opens its
own. -/
theorem joinedAround_block :
    (∀ step ∈ joinedAround "<p>You</p>", step.Tidy) ∧
      ¬Slots.Recovers .unnamed (joinedAround "<p>You</p>") {} ∧
      (run (joinedAround "<p>You</p>")).finish.text.at? .unnamed =
        some "<p>Hello there<p>You too</p>" ∧
      openings "<p>Hello there<p>You too</p>".toList = 2 ∧
      closings "<p>Hello there<p>You too</p>".toList = 1 := by
  have hyou : Plain "You".toList := by decide
  have hblock : Html.Tidy "<p>You</p>".toList := Html.Tidy.of_paragraph hyou
  exact ⟨joinedAround_tidy hblock, by decide +kernel, by decide +kernel, by decide, by decide⟩

end Draft

end ContentServer
