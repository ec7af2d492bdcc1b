import ContentServer.Proofs.Page.Run

namespace ContentServer

def Step.activates (active : SlotName) : Step → SlotName
  | .switch name => .named name
  | _ => active

/-- What of the text of a fragment is addressed to a slot, if anything is: one text while the slot
is active, and of texts for several slots its own. No text counts if it replaces what the slot
holds. -/
def Step.textFor (slot active : SlotName) (replace : Bool) : FragmentText → Option FragmentText
  | .none => if slot = active ∧ replace then some .none else none
  | .single text => if slot = active then some (.single text) else none
  | .slots texts =>
    let own := texts.entries.filter fun e => slot = .named e.1
    if own.isEmpty then none else some (.slots ⟨own⟩)

/-- What of a step is addressed to a slot, if anything is. Switches are addressed to all slots. -/
def Step.addressed (slot active : SlotName) : Step → Option Step
  | .switch name => some (.switch name)
  | .literal html => if slot = active then some (.literal html) else none
  | .notice message => if slot = active then some (.notice message) else none
  | .fragment f => (textFor slot active f.replace f.text).map fun text =>
    .fragment { text, replace := f.replace }

/-- The part of a run that is addressed to a slot. -/
def addressed (slot : SlotName) : SlotName → List Step → List Step
  | _, [] => []
  | active, step :: rest =>
    (step.addressed slot active).toList ++ addressed slot (step.activates active) rest

namespace Slots

def held? (s : Slots) : SlotName → Option Buffer
  | .unnamed => some s.unnamed
  | .named name => s.named.get? name

variable {s t : Slots} {slot : SlotName}

theorem buffer_eq_held? (s : Slots) (slot : SlotName) : s.buffer slot = (s.held? slot).getD {} := by
  cases slot <;> rfl

@[simp] theorem held?_modify_self (s : Slots) (slot : SlotName) (f : Buffer → Buffer) :
    (s.modify slot f).held? slot = some (f (s.buffer slot)) := by
  cases slot with
  | unnamed => rfl
  | named name => simp only [modify, held?, Assoc.get?_update_self, buffer]; rfl

theorem held?_modify_of_ne (s : Slots) {target : SlotName} (h : slot ≠ target) (f : Buffer → Buffer) :
    (s.modify target f).held? slot = s.held? slot := by
  cases target with
  | unnamed =>
    cases slot with
    | unnamed => exact absurd rfl h
    | named _ => rfl
  | named name =>
    cases slot with
    | unnamed => rfl
    | named other =>
      have hne : other ≠ name := fun he => h (congrArg SlotName.named he)
      simp only [modify, held?, Assoc.get?_update_of_ne _ hne]

@[simp] theorem active_append (s : Slots) (target : SlotName) (text : List Char) :
    (s.append target text).active = s.active :=
  active_modify s target _

@[simp] theorem active_push (s : Slots) (text : List Char) : (s.push text).active = s.active :=
  active_append s s.active text

@[simp] theorem active_settle (s : Slots) : s.settle.active = s.active := by
  unfold settle
  split
  · exact active_push s _
  · rfl

@[simp] theorem active_claim (s : Slots) (target : SlotName) : (s.claim target).active = s.active :=
  active_modify s target _

@[simp] theorem active_stitch (s : Slots) (text : List Char) :
    (s.stitch text).active = s.active := by
  unfold stitch
  split
  · split
    · exact active_modify s s.active _
    · rfl
  · rfl

@[simp] theorem active_pushLiteral (s : Slots) (html : List Char) :
    (s.pushLiteral html).active = s.active := by
  unfold pushLiteral
  split
  · rfl
  · split
    · split <;> simp
    · simp

@[simp] theorem active_applySlot (s : Slots) (replace : Bool) (entry : String × String) :
    (applySlot replace s entry).active = s.active := by
  cases replace <;> simp [applySlot]

theorem active_applySlots (s : Slots) (replace : Bool) (entries : List (String × String)) :
    (entries.foldl (applySlot replace) s).active = s.active := by
  induction entries generalizing s with
  | nil => rfl
  | cons entry rest ih => rw [List.foldl_cons, ih, active_applySlot]

theorem active_apply (s : Slots) (text : FragmentText) (replace : Bool) :
    (s.apply text replace).active = s.active := by
  cases text with
  | none => cases replace <;> simp [apply]
  | single text => cases replace <;> simp [apply]
  | slots texts => exact active_applySlots s replace texts.entries

theorem active_step (s : Slots) (step : Step) : (s.step step).active = step.activates s.active := by
  cases step with
  | switch name => rfl
  | literal html => exact active_pushLiteral s html
  | notice message => exact active_push s _
  | fragment f => exact active_apply s f.text f.replace

/-- Two states that are the same as far as one slot is concerned. -/
structure Agree (slot : SlotName) (s t : Slots) : Prop where
  active : s.active = t.active
  held : s.held? slot = t.held? slot
  pending : slot = s.active → s.pending = t.pending

namespace Agree

theorem refl (slot : SlotName) (s : Slots) : Agree slot s s :=
  ⟨rfl, rfl, fun _ => rfl⟩

theorem symm (h : Agree slot s t) : Agree slot t s :=
  ⟨h.active.symm, h.held.symm, fun ha => (h.pending (ha.trans h.active.symm)).symm⟩

theorem trans {u : Slots} (h : Agree slot s t) (h' : Agree slot t u) : Agree slot s u :=
  ⟨h.active.trans h'.active, h.held.trans h'.held,
    fun ha => (h.pending ha).trans (h'.pending (ha.trans h.active))⟩

theorem buffer (h : Agree slot s t) : s.buffer slot = t.buffer slot := by
  rw [buffer_eq_held?, buffer_eq_held?, h.held]

theorem modify (h : Agree slot s t) (target : SlotName) (f : Buffer → Buffer) :
    Agree slot (s.modify target f) (t.modify target f) := by
  refine ⟨?_, ?_, ?_⟩
  · rw [active_modify, active_modify, h.active]
  · by_cases hslot : slot = target
    · subst hslot
      rw [held?_modify_self, held?_modify_self, h.buffer]
    · rw [held?_modify_of_ne s hslot, held?_modify_of_ne t hslot, h.held]
  · rw [active_modify, pending_modify, pending_modify]
    exact h.pending

theorem modify_of_ne (s : Slots) {target : SlotName} (h : slot ≠ target) (f : Buffer → Buffer) :
    Agree slot (s.modify target f) s :=
  ⟨active_modify s target f, held?_modify_of_ne s h f, fun _ => pending_modify s target f⟩

theorem setPending (h : Agree slot s t) {p q : Bool} (hpq : slot = s.active → p = q) :
    Agree slot { s with pending := p } { t with pending := q } :=
  ⟨h.active, h.held, hpq⟩

theorem frame (h : Agree slot s t) (ha : slot ≠ s.active) {op : Slots → Slots}
    (hop : ∀ u : Slots, slot ≠ u.active → Agree slot (op u) u) : Agree slot (op s) (op t) :=
  (hop s ha).trans (h.trans (hop t (by rwa [← h.active])).symm)

theorem append (h : Agree slot s t) (target : SlotName) (text : List Char) :
    Agree slot (s.append target text) (t.append target text) :=
  h.modify target fun b => { b with text := b.text ++ text }

theorem append_of_ne (s : Slots) {target : SlotName} (h : slot ≠ target) (text : List Char) :
    Agree slot (s.append target text) s :=
  modify_of_ne s h fun b => { b with text := b.text ++ text }

theorem push (h : Agree slot s t) (text : List Char) : Agree slot (s.push text) (t.push text) := by
  rw [Slots.push, Slots.push, h.active]
  exact h.append t.active text

theorem push_of_ne (s : Slots) (h : slot ≠ s.active) (text : List Char) :
    Agree slot (s.push text) s :=
  append_of_ne s h text

theorem pending_of_ne (s : Slots) (h : slot ≠ s.active) (pending : Bool) :
    Agree slot { s with pending := pending } s :=
  ⟨rfl, rfl, fun ha => absurd ha h⟩

theorem settle_of_ne (s : Slots) (h : slot ≠ s.active) : Agree slot s.settle s := by
  have hpush : slot ≠ (s.push Html.closingParagraph).active := by rwa [active_push]
  unfold Slots.settle
  split
  · exact (pending_of_ne _ hpush false).trans (push_of_ne s h _)
  · exact refl slot s

theorem settle (h : Agree slot s t) : Agree slot s.settle t.settle := by
  by_cases ha : slot = s.active
  · unfold Slots.settle
    rw [← h.pending ha]
    split
    · exact (h.push _).setPending fun _ => rfl
    · exact h
  · exact h.frame ha fun u hu => settle_of_ne u hu

theorem switch (h : Agree slot s t) (name : String) :
    Agree slot (s.switch name) (t.switch name) := by
  have hpending : ∀ u : Slots, u.settle.pending = false := by
    intro u
    unfold Slots.settle
    split
    · rfl
    · next hp => exact Bool.eq_false_iff.mpr hp
  have hchanged := h.settle.modify (.named name) id
  refine ⟨rfl, hchanged.held, fun _ => ?_⟩
  exact (pending_modify s.settle _ id).trans
    ((hpending s).trans ((hpending t).symm.trans (pending_modify t.settle _ id).symm))

theorem pushLiteral_of_ne (s : Slots) (h : slot ≠ s.active) (html : List Char) :
    Agree slot (s.pushLiteral html) s := by
  have hpush : ∀ text, slot ≠ (s.push text).active := fun text => by rwa [active_push]
  have hsettle := settle_of_ne s h
  unfold Slots.pushLiteral
  split
  · exact refl slot s
  · split
    · split
      · exact (pending_of_ne _ (hpush _) false).trans (push_of_ne s h _)
      · exact (push_of_ne s.settle (by rwa [hsettle.active]) html).trans hsettle
    · exact push_of_ne s h html

theorem pushLiteral (h : Agree slot s t) (html : List Char) :
    Agree slot (s.pushLiteral html) (t.pushLiteral html) := by
  by_cases ha : slot = s.active
  · have haccepts : s.acceptsLiterals = t.acceptsLiterals := by
      rw [acceptsLiterals, acceptsLiterals, ← h.active, ← ha, h.buffer]
    unfold Slots.pushLiteral
    rw [haccepts, h.pending ha]
    split
    · exact h
    · split
      · split
        · exact (h.push _).setPending fun _ => rfl
        · exact h.settle.push html
      · exact h.push html
  · exact h.frame ha fun u hu => pushLiteral_of_ne u hu html

theorem claim (h : Agree slot s t) (target : SlotName) :
    Agree slot (s.claim target) (t.claim target) := by
  refine (h.modify target _).setPending fun ha => ?_
  rw [active_modify] at ha
  rw [h.pending ha, h.active]

theorem claim_active (h : Agree slot s t) : Agree slot (s.claim s.active) (t.claim t.active) := by
  rw [← h.active]
  exact h.claim s.active

theorem claim_of_ne (s : Slots) {target : SlotName} (h : slot ≠ target) :
    Agree slot (s.claim target) s := by
  refine ⟨active_modify s target _, held?_modify_of_ne s h _, fun ha => ?_⟩
  have hactive : target ≠ s.active := by
    rintro rfl
    exact h (ha.trans (active_modify s _ _))
  simp [Slots.claim, hactive]

theorem stitch_of_ne (s : Slots) (h : slot ≠ s.active) (text : List Char) :
    Agree slot (s.stitch text) s := by
  unfold Slots.stitch
  split
  · split
    · next stem _ =>
      have hmodify := modify_of_ne s h fun b : Buffer => { b with text := stem }
      exact (pending_of_ne _ (by rwa [active_modify]) true).trans hmodify
    · exact refl slot s
  · exact refl slot s

theorem stitch (h : Agree slot s t) (text : List Char) :
    Agree slot (s.stitch text) (t.stitch text) := by
  by_cases ha : slot = s.active
  · unfold Slots.stitch
    rw [← h.active, ← ha, ← h.buffer]
    split
    · split
      · exact (h.modify slot _).setPending fun _ => rfl
      · exact h
    · exact h
  · exact h.frame ha fun u hu => stitch_of_ne u hu text

theorem applySlot (h : Agree slot s t) (replace : Bool) (entry : String × String) :
    Agree slot (Slots.applySlot replace s entry) (Slots.applySlot replace t entry) := by
  cases replace with
  | false => exact h.append (.named entry.1) entry.2.toList
  | true => exact (h.claim (.named entry.1)).append (.named entry.1) entry.2.toList

theorem applySlot_of_ne (s : Slots) (replace : Bool) {entry : String × String}
    (h : slot ≠ .named entry.1) : Agree slot (Slots.applySlot replace s entry) s := by
  cases replace with
  | false => exact append_of_ne s h _
  | true => exact (append_of_ne _ h _).trans (claim_of_ne s h)

theorem applySlots (h : Agree slot s t) (replace : Bool) (entries : List (String × String)) :
    Agree slot (entries.foldl (Slots.applySlot replace) s) (entries.foldl (Slots.applySlot replace) t) := by
  induction entries generalizing s t with
  | nil => exact h
  | cons entry rest ih => exact ih (h.applySlot replace entry)

/-- Of texts for several slots, the entries of one slot alone make a difference to it. -/
theorem applySlots_own (s : Slots) (replace : Bool) (entries : List (String × String)) :
    Agree slot (entries.foldl (Slots.applySlot replace) s)
      ((entries.filter fun e => slot = .named e.1).foldl (Slots.applySlot replace) s) := by
  induction entries generalizing s with
  | nil => exact refl slot s
  | cons entry rest ih =>
    rw [List.foldl_cons]
    by_cases hown : slot = .named entry.1
    · rw [List.filter_cons_of_pos (by simpa using hown)]
      exact ih _
    · rw [List.filter_cons_of_neg (by simpa using hown)]
      exact ((applySlot_of_ne s replace hown).applySlots replace rest).trans (ih s)

theorem apply (h : Agree slot s t) (text : FragmentText) (replace : Bool) :
    Agree slot (s.apply text replace) (t.apply text replace) := by
  cases text with
  | none =>
    cases replace with
    | false => exact h
    | true => exact h.claim_active
  | single text =>
    cases replace with
    | false => exact (h.stitch _).push _
    | true => exact h.claim_active.push _
  | slots texts => exact h.applySlots replace texts.entries

theorem step (h : Agree slot s t) (step : Step) : Agree slot (s.step step) (t.step step) := by
  cases step with
  | switch name => exact h.switch name
  | literal html => exact h.pushLiteral html
  | notice message => exact h.push _
  | fragment f => exact h.apply f.text f.replace

theorem steps (h : Agree slot s t) (steps : List Step) :
    Agree slot (steps.foldl Slots.step s) (steps.foldl Slots.step t) := by
  induction steps generalizing s t with
  | nil => exact h
  | cons first rest ih => exact ih (h.step first)

end Agree

theorem apply_addressed (s : Slots) (slot : SlotName) (text : FragmentText) (replace : Bool) :
    Agree slot (s.apply text replace)
      (match Step.textFor slot s.active replace text with
        | some own => s.apply own replace
        | none => s) := by
  cases text with
  | none =>
    cases replace with
    | false => simpa [Step.textFor, apply] using Agree.refl slot s
    | true =>
      by_cases ha : slot = s.active
      · simpa [Step.textFor, ha] using Agree.refl s.active _
      · simpa [Step.textFor, apply, ha] using Agree.claim_of_ne s ha
  | single text =>
    by_cases ha : slot = s.active
    · simpa [Step.textFor, ha] using Agree.refl s.active _
    · cases replace with
      | false =>
        have hpush := Agree.push_of_ne (s.stitch text.toList) (by rwa [active_stitch]) text.toList
        simpa [Step.textFor, apply, ha] using hpush.trans (Agree.stitch_of_ne s ha text.toList)
      | true =>
        have hpush := Agree.push_of_ne (s.claim s.active) (by rwa [active_claim]) text.toList
        simpa [Step.textFor, apply, ha] using hpush.trans (Agree.claim_of_ne s ha)
  | slots texts =>
    have hown : Agree slot (s.apply (.slots texts) replace) _ :=
      Agree.applySlots_own s replace texts.entries
    dsimp only [Step.textFor]
    split
    · next own hsome =>
      split at hsome
      · cases hsome
      · obtain rfl := Option.some.inj hsome
        exact hown
    · next hnone =>
      split at hnone
      · next hempty =>
        rw [List.isEmpty_iff.mp hempty] at hown
        exact hown
      · cases hnone

theorem step_addressed (s : Slots) (slot : SlotName) (step : Step) :
    Agree slot (s.step step) ((step.addressed slot s.active).toList.foldl Slots.step s) := by
  cases step with
  | switch name => exact .refl slot _
  | literal html =>
    by_cases ha : slot = s.active
    · rw [Step.addressed, if_pos ha]
      exact .refl slot _
    · rw [Step.addressed, if_neg ha]
      exact .pushLiteral_of_ne s ha html
  | notice message =>
    by_cases ha : slot = s.active
    · rw [Step.addressed, if_pos ha]
      exact .refl slot _
    · rw [Step.addressed, if_neg ha]
      exact .push_of_ne s ha _
  | fragment f =>
    have hown := apply_addressed s slot f.text f.replace
    rw [Step.addressed]
    cases haddressed : Step.textFor slot s.active f.replace f.text with
    | none => rwa [haddressed] at hown
    | some text => rwa [haddressed] at hown

/-- A run leaves in a slot what the part of it that is addressed to the slot leaves there. -/
theorem run_addressed {s t : Slots} (h : Agree slot s t) (steps : List Step) :
    Agree slot (steps.foldl Slots.step s) ((addressed slot s.active steps).foldl Slots.step t) := by
  induction steps generalizing s t with
  | nil => exact h
  | cons first rest ih =>
    rw [List.foldl_cons, addressed, List.foldl_append, ← active_step]
    exact ih ((step_addressed s slot first).trans (h.steps _))

end Slots

end ContentServer
