import ContentServer.Proofs.Page.Isolation
import ContentServer.Proofs.Page.Paragraphs

namespace ContentServer

/-- What literals and directives, those for tables included, do to a page under construction. -/
inductive Change where
  | of (step : Step)
  | table (output : TableOutput)

namespace Change

def activates (active : SlotName) : Change → SlotName
  | .of step => step.activates active
  | .table _ => active

def isLiteral : Change → Bool
  | .of (.literal _) => true
  | _ => false

def claims (slot active : SlotName) : Change → Bool
  | .of step => Slots.claims { active } slot step
  | .table _ => false

def names : Change → List String
  | .of step => step.names
  | .table _ => []

end Change

/-- Does some change hand the slot over to a replacing fragment? -/
def IsClaimed (slot : SlotName) : SlotName → List Change → Prop
  | _, [] => False
  | active, change :: rest =>
    change.claims slot active ∨ IsClaimed slot (change.activates active) rest

/-- A run without the literals that are pushed while the slot is active. -/
def withoutLiterals (slot : SlotName) : SlotName → List Change → List Change
  | _, [] => []
  | active, change :: rest =>
    if slot = active ∧ change.isLiteral then withoutLiterals slot (change.activates active) rest
    else change :: withoutLiterals slot (change.activates active) rest

theorem exists_of_isLiteral {change : Change} (h : change.isLiteral) :
    ∃ html, change = .of (.literal html) := by
  cases change with
  | table output => cases h
  | of step =>
    cases step with
    | literal html => exact ⟨html, rfl⟩
    | switch name => cases h
    | notice message => cases h
    | fragment f => cases h

theorem isClaimed_withoutLiterals (slot active : SlotName) (changes : List Change) :
    IsClaimed slot active (withoutLiterals slot active changes) ↔
      IsClaimed slot active changes := by
  induction changes generalizing active with
  | nil => exact Iff.rfl
  | cons change rest ih =>
    rw [withoutLiterals]
    split
    · next hliteral =>
      obtain ⟨html, rfl⟩ := exists_of_isLiteral hliteral.2
      exact (ih active).trans (or_iff_right Bool.false_ne_true).symm
    · exact or_congr_right (ih (change.activates active))

namespace Slots

variable {s t : Slots} {slot : SlotName}

def change (s : Slots) : Change → Slots
  | .of step => s.step step
  | .table output => s.push output.html.toList

theorem active_change (s : Slots) (change : Change) :
    (s.change change).active = change.activates s.active := by
  cases change with
  | of step => exact active_step s step
  | table output => exact active_push s _

theorem has_change (h : s.Has s.active) (change : Change) :
    (s.change change).Has slot ↔ s.Has slot ∨ ∃ name ∈ change.names, slot = .named name := by
  cases change with
  | of step => exact has_step h step
  | table output => exact (has_push h _).trans (by simp [Change.names])

theorem has_active_change (h : s.Has s.active) (change : Change) :
    (s.change change).Has (s.change change).active := by
  cases change with
  | of step => exact has_active_step h step
  | table output =>
    rw [active_change]
    exact (has_push h _).mpr h

theorem Agree.change (h : Agree slot s t) (change : Change) :
    Agree slot (s.change change) (t.change change) := by
  cases change with
  | of step => exact h.step step
  | table output => exact h.push _

/-- What changes can make of a page: they work on the buffers of slots one by one, and give up no
slot that a fragment owns. -/
inductive Evolves (s : Slots) : Slots → Prop
  | refl : Evolves s s
  | modify {t : Slots} (h : Evolves s t) (target : SlotName) {f : Buffer → Buffer}
      (hf : ∀ b, b.owned → (f b).owned) : Evolves s (t.modify target f)
  | pending {t : Slots} (h : Evolves s t) (pending : Bool) : Evolves s { t with pending }
  | active {t : Slots} (h : Evolves s t) (active : SlotName) : Evolves s { t with active }

namespace Evolves

theorem append (h : Evolves s t) (target : SlotName) (text : List Char) :
    Evolves s (t.append target text) :=
  h.modify target fun _ hb => hb

theorem push (h : Evolves s t) (text : List Char) : Evolves s (t.push text) :=
  h.append t.active text

theorem settle (h : Evolves s t) : Evolves s t.settle := by
  unfold Slots.settle
  split
  · exact (h.push _).pending false
  · exact h

theorem switch (h : Evolves s t) (name : String) : Evolves s (t.switch name) :=
  (h.settle.modify (.named name) fun _ hb => hb).active (.named name)

theorem pushLiteral (h : Evolves s t) (html : List Char) : Evolves s (t.pushLiteral html) := by
  unfold Slots.pushLiteral
  split
  · exact h
  · split
    · split
      · exact (h.push _).pending false
      · exact h.settle.push html
    · exact h.push html

theorem claim (h : Evolves s t) (target : SlotName) : Evolves s (t.claim target) :=
  (h.modify target fun _ _ => rfl).pending _

theorem stitch (h : Evolves s t) (text : List Char) : Evolves s (t.stitch text) := by
  unfold Slots.stitch
  split
  · split
    · next stem _ =>
      have hmodify := h.modify t.active (f := fun b => { b with text := stem }) fun _ hb => hb
      exact hmodify.pending true
    · exact h
  · exact h

theorem applySlots (h : Evolves s t) (replace : Bool) (entries : List (String × String)) :
    Evolves s (entries.foldl (applySlot replace) t) := by
  induction entries generalizing t with
  | nil => exact h
  | cons entry rest ih =>
    rw [List.foldl_cons]
    refine ih ?_
    cases replace with
    | false => exact h.append _ _
    | true => exact (h.claim _).append _ _

theorem apply (h : Evolves s t) (text : FragmentText) (replace : Bool) :
    Evolves s (t.apply text replace) := by
  cases text with
  | none =>
    cases replace with
    | false => exact h
    | true => exact h.claim t.active
  | single text =>
    cases replace with
    | false => exact (h.stitch _).push _
    | true => exact (h.claim t.active).push _
  | slots texts => exact h.applySlots replace texts.entries

theorem change (h : Evolves s t) (change : Change) : Evolves s (t.change change) := by
  cases change with
  | table output => exact h.push _
  | of step =>
    cases step with
    | switch name => exact h.switch name
    | literal html => exact h.pushLiteral html
    | notice message => exact h.push _
    | fragment f => exact h.apply f.text f.replace

theorem run (h : Evolves s t) (changes : List Change) :
    Evolves s (changes.foldl Slots.change t) := by
  induction changes generalizing t with
  | nil => exact h
  | cons first rest ih => exact ih (h.change first)

theorem owned (h : Evolves s t) (howned : (s.buffer slot).owned) : (t.buffer slot).owned := by
  induction h with
  | refl => exact howned
  | @modify t _ target f hf ih =>
    by_cases htarget : slot = target
    · subst htarget
      rw [buffer_modify_self]
      exact hf _ ih
    · rw [buffer_modify_of_ne t htarget]
      exact ih
  | pending => rwa [buffer_pending]
  | active => cases slot <;> assumption

end Evolves

theorem unnamed_mem_replaced : .unnamed ∈ s.replaced ↔ s.unnamed.owned := by
  simp [replaced]

theorem named_mem_replaced {name : String} :
    .named name ∈ s.replaced ↔ ∃ b, (name, b) ∈ s.named.entries ∧ b.owned := by
  simp [replaced]

theorem mem_replaced_of_owned (h : (s.buffer slot).owned) : slot ∈ s.replaced := by
  cases slot with
  | unnamed => exact unnamed_mem_replaced.mpr h
  | named name =>
    rw [buffer_eq_held?] at h
    cases hheld : s.held? (.named name) with
    | none =>
      rw [hheld] at h
      cases h
    | some b =>
      rw [hheld] at h
      exact named_mem_replaced.mpr ⟨b, Assoc.mem_of_lookup hheld, h⟩

theorem replaced_subset_modify (s : Slots) (target : SlotName) {f : Buffer → Buffer}
    (hf : ∀ b, b.owned → (f b).owned) : s.replaced ⊆ (s.modify target f).replaced := by
  intro slot hslot
  cases target with
  | unnamed =>
    cases slot with
    | unnamed => exact unnamed_mem_replaced.mpr (hf _ (unnamed_mem_replaced.mp hslot))
    | named name =>
      obtain ⟨b, hmem, hb⟩ := named_mem_replaced.mp hslot
      exact named_mem_replaced.mpr ⟨b, hmem, hb⟩
  | named target =>
    cases slot with
    | unnamed =>
      have howned := unnamed_mem_replaced.mp hslot
      exact unnamed_mem_replaced.mpr howned
    | named name =>
      obtain ⟨b, hmem, hb⟩ := named_mem_replaced.mp hslot
      obtain hkept | ⟨rfl, hfind⟩ := Assoc.mem_put_of_mem target
        (f ((s.named.get? target).getD default)) hmem
      · exact named_mem_replaced.mpr ⟨b, hkept, hb⟩
      · have hget : s.named.get? name = some b := hfind
        have hnew : (name, f b) ∈ (s.modify (.named name) f).named.entries := by
          have hput := Assoc.mem_of_lookup (Assoc.lookup_put_self name (f b) s.named.entries)
          simpa only [modify, Assoc.update, Assoc.insert, hget, Option.getD_some] using hput
        exact named_mem_replaced.mpr ⟨f b, hnew, hf b hb⟩

theorem Evolves.replaced (h : Evolves s t) : s.replaced ⊆ t.replaced := by
  induction h with
  | refl => exact List.Subset.refl _
  | modify _ target hf ih => exact List.Subset.trans ih (replaced_subset_modify _ target hf)
  | pending _ _ ih => exact ih
  | active _ _ ih => exact ih

theorem owned_claim (s : Slots) (slot : SlotName) : ((s.claim slot).buffer slot).owned := by
  rw [claim, buffer_pending, buffer_modify_self]

theorem agree_claim (h : s.active = t.active) (slot : SlotName) :
    Agree slot (s.claim slot) (t.claim slot) := by
  refine ⟨?_, ?_, fun hslot => ?_⟩
  · rw [active_claim, active_claim, h]
  · have hs : (s.claim slot).held? slot = some { owned := true } := held?_modify_self s slot _
    have ht : (t.claim slot).held? slot = some { owned := true } := held?_modify_self t slot _
    rw [hs, ht]
  · rw [active_claim] at hslot
    simp [claim, hslot, ← h]

theorem agree_claim_active (h : s.active = t.active) :
    Agree s.active (s.claim s.active) (t.claim t.active) := by
  rw [← h]
  exact agree_claim h s.active

theorem agree_applySlots (h : s.active = t.active) {entries : List (String × String)}
    (hclaims : entries.any fun entry => decide (slot = .named entry.1)) :
    Agree slot (entries.foldl (applySlot true) s) (entries.foldl (applySlot true) t) ∧
      ((entries.foldl (applySlot true) s).buffer slot).owned := by
  induction entries generalizing s t with
  | nil => cases hclaims
  | cons entry rest ih =>
    rw [List.foldl_cons, List.foldl_cons]
    by_cases hslot : slot = .named entry.1
    · subst hslot
      have hagree := (agree_claim h (.named entry.1)).append (.named entry.1) entry.2.toList
      have howned := (Evolves.refl.append (.named entry.1) entry.2.toList).owned
        (owned_claim s (.named entry.1))
      exact ⟨hagree.applySlots true rest, (Evolves.refl.applySlots true rest).owned howned⟩
    · rw [List.any_cons, decide_eq_false hslot, Bool.false_or] at hclaims
      exact ih (by rw [active_applySlot, active_applySlot, h]) hclaims

theorem agree_of_claims (h : s.active = t.active) {change : Change}
    (hclaims : change.claims slot s.active) :
    Agree slot (s.change change) (t.change change) ∧ ((s.change change).buffer slot).owned := by
  cases change with
  | table output => cases hclaims
  | of step =>
    cases step with
    | switch name => cases hclaims
    | literal html => cases hclaims
    | notice message => cases hclaims
    | fragment f =>
      obtain ⟨text, _, _, _, _, _, _, _, _, replace⟩ := f
      cases replace with
      | false => cases text <;> cases hclaims
      | true =>
        cases text with
        | slots texts => exact agree_applySlots h hclaims
        | none =>
          obtain rfl : slot = s.active := of_decide_eq_true hclaims
          exact ⟨agree_claim_active h, owned_claim s s.active⟩
        | single text =>
          obtain rfl : slot = s.active := of_decide_eq_true hclaims
          have howned := (Evolves.refl.push text.toList).owned (owned_claim s s.active)
          exact ⟨(agree_claim_active h).push text.toList, howned⟩

/-- Two pages with the same slots, of which the same is active. -/
structure SameShape (s t : Slots) : Prop where
  active : s.active = t.active
  opened : s.Has s.active
  has : ∀ slot, s.Has slot ↔ t.Has slot

namespace SameShape

theorem change (h : SameShape s t) (change : Change) :
    SameShape (s.change change) (t.change change) := by
  have hopened : t.Has t.active := h.active ▸ (h.has s.active).mp h.opened
  refine ⟨?_, has_active_change h.opened change, fun slot => ?_⟩
  · rw [active_change, active_change, h.active]
  · rw [has_change h.opened, has_change hopened, h.has]

theorem pushLiteral_left (h : SameShape s t) (html : List Char) :
    SameShape (s.pushLiteral html) t := by
  refine ⟨?_, ?_, fun slot => ?_⟩
  · rw [active_pushLiteral, h.active]
  · rw [active_pushLiteral]
    exact (has_pushLiteral h.opened html).mpr h.opened
  · rw [has_pushLiteral h.opened, h.has]

theorem at?_text (h : SameShape s t) (hagree : Agree slot s t) :
    s.settle.text.at? slot = t.settle.text.at? slot := by
  have hheld := hagree.settle.held
  cases slot with
  | named name => rw [at?_text_named, at?_text_named, hheld]
  | unnamed =>
    have hopened : t.Has t.active := h.active ▸ (h.has s.active).mp h.opened
    have hempty : s.settle.named.isEmpty = t.settle.named.isEmpty := by
      rw [Bool.eq_iff_iff, isEmpty_named_iff, isEmpty_named_iff]
      simp only [has_settle h.opened, has_settle hopened, h.has]
    have hunnamed : s.settle.unnamed = t.settle.unnamed := Option.some.inj hheld
    rw [at?_text_unnamed, at?_text_unnamed, hempty, hunnamed]

end SameShape

theorem pushLiteral_of_owned (h : (s.buffer s.active).owned) (html : List Char) :
    s.pushLiteral html = s := by
  have haccepts : s.acceptsLiterals = false := by
    rw [acceptsLiterals, h]
    rfl
  rw [pushLiteral, haccepts, Bool.not_false, Bool.or_true, if_pos rfl]

/-- Once the slot is claimed, its literals have made no difference to it. Until then the two pages
need not agree on it: they have the same shape. -/
theorem agree_withoutLiterals (h : SameShape s t) {changes : List Change}
    (hclaimed : Agree slot s t ∧ (s.buffer slot).owned ∨ IsClaimed slot s.active changes) :
    SameShape (changes.foldl change s) ((withoutLiterals slot s.active changes).foldl change t) ∧
      Agree slot (changes.foldl change s) ((withoutLiterals slot s.active changes).foldl change t) ∧
      ((changes.foldl change s).buffer slot).owned := by
  induction changes generalizing s t with
  | nil => exact ⟨h, hclaimed.resolve_right id⟩
  | cons first rest ih =>
    rw [List.foldl_cons, withoutLiterals, ← active_change]
    split
    · next hliteral =>
      obtain ⟨rfl, hliteral⟩ := hliteral
      obtain ⟨html, rfl⟩ := exists_of_isLiteral hliteral
      refine ih (h.pushLiteral_left html) ?_
      obtain ⟨hagree, howned⟩ | hlater := hclaimed
      · have hsame : s.change (.of (.literal html)) = s := pushLiteral_of_owned howned html
        rw [hsame]
        exact .inl ⟨hagree, howned⟩
      · rw [active_change]
        exact .inr (hlater.resolve_left Bool.false_ne_true)
    · rw [List.foldl_cons]
      refine ih (h.change first) ?_
      obtain ⟨hagree, howned⟩ | hnow | hlater := hclaimed
      · exact .inl ⟨hagree.change first, (Evolves.refl.change first).owned howned⟩
      · exact .inl (agree_of_claims h.active hnow)
      · rw [active_change]
        exact .inr hlater

end Slots

namespace Draft

def change (d : Draft) : Change → Draft
  | .of step => d.step step
  | .table output => d.applyTable output

def built (changes : List Change) : Draft :=
  changes.foldl change {}

theorem slots_change (d : Draft) (change : Change) :
    (d.change change).slots = d.slots.change change := by
  cases change with
  | of step => exact slots_step d step
  | table output => rfl

theorem slots_built (changes : List Change) :
    (built changes).slots = changes.foldl Slots.change {} := by
  have hrun : ∀ d : Draft, (changes.foldl change d).slots = changes.foldl Slots.change d.slots := by
    induction changes with
    | nil => exact fun _ => rfl
    | cons first rest ih =>
      intro d
      rw [List.foldl_cons, List.foldl_cons, ih, slots_change]
  exact hrun {}

theorem built_withoutLiterals {slot : SlotName} {changes : List Change}
    (h : IsClaimed slot .unnamed changes) :
    (built changes).finish.text.at? slot =
        (built (withoutLiterals slot .unnamed changes)).finish.text.at? slot ∧
      slot ∈ (built changes).finish.replaced := by
  have hshape : Slots.SameShape {} {} := ⟨rfl, rfl, fun _ => Iff.rfl⟩
  obtain ⟨hsame, hagree, howned⟩ := Slots.agree_withoutLiterals hshape (.inr h)
  rw [finish, finish, slots_built, slots_built]
  exact ⟨hsame.at?_text hagree, Slots.mem_replaced_of_owned howned⟩

/-- A slot that a replacing fragment claims stays replaced and finishes with the same text whatever
literals are pushed to it, before the claim and after it. No run gives up a replaced slot. -/
theorem finish_claimed (slot : SlotName) :
    (∀ changes others, IsClaimed slot .unnamed changes →
      withoutLiterals slot .unnamed changes = withoutLiterals slot .unnamed others →
      (built changes).finish.text.at? slot = (built others).finish.text.at? slot ∧
        slot ∈ (built changes).finish.replaced) ∧
    ∀ changes more, (built changes).finish.replaced ⊆
      (built (changes ++ more)).finish.replaced := by
  refine ⟨fun changes others hclaimed hsame => ?_, fun changes more => ?_⟩
  · have hothers : IsClaimed slot .unnamed others := by
      rwa [← isClaimed_withoutLiterals, ← hsame, isClaimed_withoutLiterals]
    obtain ⟨htext, hreplaced⟩ := built_withoutLiterals hclaimed
    rw [htext, hsame]
    exact ⟨(built_withoutLiterals hothers).1.symm, hreplaced⟩
  · rw [finish, finish, slots_built, slots_built, List.foldl_append]
    exact (Slots.Evolves.refl.run more).replaced

def takeover (before after : List Change) : List Change :=
  .of (.switch "side") :: before ++
    .of (.fragment { text := .single " there" }) ::
    .of (.fragment { text := .single "<p>New</p>", replace := true }) :: after ++
    [.of (.switch "main"), .of (.literal "<p>Main</p>".toList),
      .of (.fragment { text := .slots (.ofList [("side", "<hr>")]) })]

def early : List Change :=
  takeover [.of (.literal "<p>Hello</p>".toList)] []

def late : List Change :=
  takeover [] [.of (.literal "<p>You</p>".toList), .of (.literal "<p>End</p>".toList)]

theorem finish_claimed_takeover :
    IsClaimed (.named "side") .unnamed early ∧
      withoutLiterals (.named "side") .unnamed early =
        withoutLiterals (.named "side") .unnamed late ∧
      (built early).finish.text.at? (.named "side") = (built late).finish.text.at? (.named "side") ∧
      (built late).finish.text.at? (.named "side") = some "<p>New</p><hr>" ∧
      .named "side" ∈ (built early).finish.replaced := by
  have hclaimed : IsClaimed (.named "side") .unnamed early := .inr (.inr (.inr (.inl rfl)))
  have hsame : withoutLiterals (.named "side") .unnamed early =
      withoutLiterals (.named "side") .unnamed late := rfl
  obtain ⟨htext, hreplaced⟩ := (finish_claimed (.named "side")).1 early late hclaimed hsame
  exact ⟨hclaimed, hsame, htext, by decide +kernel, hreplaced⟩

end Draft

end ContentServer
