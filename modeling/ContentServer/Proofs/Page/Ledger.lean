import ContentServer.Proofs.Page.Run

namespace ContentServer

open Html

/-- Slots that keep the name of the slot whose paragraph is owed a closing tag. -/
structure Ledger where
  active : SlotName := .unnamed
  unnamed : Buffer := {}
  named : Assoc String Buffer := ∅
  owed : Option SlotName := none

namespace Ledger

def buffer (l : Ledger) : SlotName → Buffer
  | .unnamed => l.unnamed
  | .named name => (l.named.get? name).getD {}

def modify (l : Ledger) (slot : SlotName) (f : Buffer → Buffer) : Ledger :=
  match slot with
  | .unnamed => { l with unnamed := f l.unnamed }
  | .named name => { l with named := l.named.update name f }

def append (l : Ledger) (slot : SlotName) (text : List Char) : Ledger :=
  l.modify slot fun b => { b with text := b.text ++ text }

def push (l : Ledger) (text : List Char) : Ledger :=
  l.append l.active text

/-- Closes the paragraph of the slot that is owed a closing tag, whichever slot that is. -/
def settle (l : Ledger) : Ledger :=
  match l.owed with
  | some slot => { l.append slot closingParagraph with owed := none }
  | none => l

def switch (l : Ledger) (name : String) : Ledger :=
  { l.settle.modify (.named name) id with active := .named name }

def pushLiteral (l : Ledger) (html : List Char) : Ledger :=
  if html.isEmpty || (l.buffer l.active).owned then l
  else if l.owed = some l.active then
    match List.isPrefixOf? openingParagraph html with
    | some rest => { l.push rest with owed := none }
    | none => { (l.push closingParagraph).push html with owed := none }
  else l.push html

def claim (l : Ledger) (slot : SlotName) : Ledger :=
  { l.modify slot fun _ => { owned := true } with owed := if l.owed = some slot then none else l.owed }

def stitch (l : Ledger) (text : List Char) : Ledger :=
  if Slots.isInline text then
    match List.isSuffixOf? closingParagraph (Text.trimEnd (l.buffer l.active).text) with
    | some stem => { l.modify l.active fun b => { b with text := stem } with owed := some l.active }
    | none => l
  else l

def applySlot (replace : Bool) (l : Ledger) (entry : String × String) : Ledger :=
  let l := if replace then l.claim (.named entry.1) else l
  l.append (.named entry.1) entry.2.toList

def apply (l : Ledger) (text : FragmentText) (replace : Bool) : Ledger :=
  match text with
  | .none => if replace then l.claim l.active else l
  | .single text => (if replace then l.claim l.active else l.stitch text.toList).push text.toList
  | .slots texts => texts.entries.foldl (applySlot replace) l

def step (l : Ledger) : Step → Ledger
  | .switch name => l.switch name
  | .literal html => l.pushLiteral html
  | .notice message => l.push (Slots.notice message)
  | .fragment fragment => l.apply fragment.text fragment.replace

def ofSlots (s : Slots) : Ledger where
  active := s.active
  unnamed := s.unnamed
  named := s.named
  owed := if s.pending then some s.active else none

theorem buffer_ofSlots (s : Slots) (slot : SlotName) : (ofSlots s).buffer slot = s.buffer slot := by
  cases slot <;> rfl

theorem modify_ofSlots (s : Slots) (slot : SlotName) (f : Buffer → Buffer) :
    (ofSlots s).modify slot f = ofSlots (s.modify slot f) := by
  cases slot <;> rfl

theorem append_ofSlots (s : Slots) (slot : SlotName) (text : List Char) :
    (ofSlots s).append slot text = ofSlots (s.append slot text) :=
  modify_ofSlots s slot fun b => { b with text := b.text ++ text }

theorem push_ofSlots (s : Slots) (text : List Char) :
    (ofSlots s).push text = ofSlots (s.push text) :=
  append_ofSlots s s.active text

theorem settle_ofSlots (s : Slots) : (ofSlots s).settle = ofSlots s.settle := by
  obtain ⟨active, unnamed, named, pending⟩ := s
  cases pending with
  | false => rfl
  | true => cases active <;> rfl

theorem switch_ofSlots (s : Slots) (name : String) :
    (ofSlots s).switch name = ofSlots (s.switch name) := by
  have hpending : (s.settle.modify (.named name) id).pending = false :=
    (Slots.pending_modify s.settle (.named name) id).trans s.pending_settle
  rw [switch, settle_ofSlots, modify_ofSlots, Slots.switch, ofSlots, ofSlots, hpending]
  rfl

theorem pushLiteral_ofSlots (s : Slots) (html : List Char) :
    (ofSlots s).pushLiteral html = ofSlots (s.pushLiteral html) := by
  have howned : ((ofSlots s).buffer (ofSlots s).active).owned = !s.acceptsLiterals := by
    rw [buffer_ofSlots, Slots.acceptsLiterals, Bool.not_not]
    rfl
  have howed : (ofSlots s).owed = some (ofSlots s).active ↔ s.pending := by
    simp [ofSlots]
  rw [pushLiteral, howned, Slots.pushLiteral]
  simp only [howed]
  split
  · rfl
  · split
    · next hpending =>
      cases List.isPrefixOf? openingParagraph html with
      | some rest =>
        dsimp only
        rw [push_ofSlots]
        rfl
      | none =>
        have hsettle : s.settle = { s.push closingParagraph with pending := false } :=
          if_pos hpending
        dsimp only
        rw [push_ofSlots, push_ofSlots, hsettle]
        obtain ⟨active, unnamed, named, pending⟩ := s
        cases active <;> rfl
    · exact push_ofSlots s html

theorem claim_ofSlots (s : Slots) (slot : SlotName) :
    (ofSlots s).claim slot = ofSlots (s.claim slot) := by
  have howed : (if (ofSlots s).owed = some slot then none else (ofSlots s).owed) =
      if s.pending && slot ≠ s.active then some s.active else none := by
    cases hpending : s.pending <;> by_cases hslot : slot = s.active <;>
      simp [ofSlots, hpending, hslot, eq_comm]
  rw [claim, howed, modify_ofSlots, Slots.claim]
  simp only [ofSlots, Slots.active_modify]

theorem stitch_ofSlots (s : Slots) (text : List Char) :
    (ofSlots s).stitch text = ofSlots (s.stitch text) := by
  have hbuffer : (ofSlots s).buffer (ofSlots s).active = s.buffer s.active :=
    buffer_ofSlots s s.active
  rw [stitch, hbuffer, Slots.stitch]
  split
  · cases List.isSuffixOf? closingParagraph (Text.trimEnd (s.buffer s.active).text) with
    | some stem =>
      dsimp only
      rw [modify_ofSlots]
      simp [ofSlots]
    | none => rfl
  · rfl

theorem applySlot_ofSlots (s : Slots) (replace : Bool) (entry : String × String) :
    applySlot replace (ofSlots s) entry = ofSlots (Slots.applySlot replace s entry) := by
  cases replace with
  | false => exact append_ofSlots s (.named entry.1) entry.2.toList
  | true =>
    rw [applySlot, if_pos rfl, claim_ofSlots]
    exact append_ofSlots _ (.named entry.1) entry.2.toList

theorem apply_ofSlots (s : Slots) (text : FragmentText) (replace : Bool) :
    (ofSlots s).apply text replace = ofSlots (s.apply text replace) := by
  cases text with
  | none =>
    cases replace with
    | false => rfl
    | true => exact claim_ofSlots s s.active
  | single text =>
    cases replace with
    | false =>
      exact (congrArg (push · text.toList) (stitch_ofSlots s text.toList)).trans (push_ofSlots _ _)
    | true =>
      exact (congrArg (push · text.toList) (claim_ofSlots s s.active)).trans (push_ofSlots _ _)
  | slots texts =>
    rw [apply, Slots.apply]
    induction texts.entries generalizing s with
    | nil => rfl
    | cons entry rest ih => rw [List.foldl_cons, applySlot_ofSlots, ih, List.foldl_cons]

/-- A step keeps to the active slot with what is owed: it closes the paragraph before it leaves the
slot. -/
theorem step_ofSlots (s : Slots) (step : Step) : (ofSlots s).step step = ofSlots (s.step step) := by
  cases step with
  | switch name => exact switch_ofSlots s name
  | literal html => exact pushLiteral_ofSlots s html
  | notice message => exact push_ofSlots s (Slots.notice message)
  | fragment fragment => exact apply_ofSlots s fragment.text fragment.replace

theorem run_ofSlots (s : Slots) (steps : List Step) :
    steps.foldl step (ofSlots s) = ofSlots (steps.foldl Slots.step s) := by
  induction steps generalizing s with
  | nil => rfl
  | cons first rest ih => rw [List.foldl_cons, step_ofSlots, ih, List.foldl_cons]

theorem eq_active_of_owed {s : Slots} {slot : SlotName} (h : (ofSlots s).owed = some slot) :
    slot = (ofSlots s).active := by
  rw [ofSlots] at h
  split at h
  · exact (Option.some.inj h).symm
  · cases h

end Ledger

end ContentServer
