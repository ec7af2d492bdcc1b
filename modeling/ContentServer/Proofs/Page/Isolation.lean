import ContentServer.Proofs.Page.Addressed
import ContentServer.Proofs.Page.Ledger

namespace ContentServer

/-- The named slots that a step switches or writes to. What is written to the active slot does not
count here, as there was a switch to it before. -/
def Step.names : Step → List String
  | .switch name => [name]
  | .fragment { text := .slots texts, .. } => texts.keys
  | _ => []

def slotNames (steps : List Step) : List String :=
  steps.flatMap Step.names

namespace Slots

variable {s t : Slots} {slot : SlotName}

def Has (s : Slots) (slot : SlotName) : Prop :=
  (s.held? slot).isSome

theorem has_modify (s : Slots) (target : SlotName) (f : Buffer → Buffer) :
    (s.modify target f).Has slot ↔ slot = target ∨ s.Has slot := by
  by_cases h : slot = target
  · subst h
    simp [Has]
  · simp [Has, held?_modify_of_ne s h, h]

section Opened

variable (h : s.Has s.active)

include h

theorem has_modify_active (f : Buffer → Buffer) : (s.modify s.active f).Has slot ↔ s.Has slot := by
  rw [has_modify]
  exact or_iff_right_of_imp fun hslot => hslot ▸ h

theorem has_push (text : List Char) : (s.push text).Has slot ↔ s.Has slot :=
  has_modify_active h fun b => { b with text := b.text ++ text }

theorem has_settle : s.settle.Has slot ↔ s.Has slot := by
  unfold settle
  split
  · exact has_push h _
  · exact Iff.rfl

theorem has_claim_active : (s.claim s.active).Has slot ↔ s.Has slot :=
  has_modify_active h fun _ => { owned := true }

theorem has_stitch (text : List Char) : (s.stitch text).Has slot ↔ s.Has slot := by
  unfold stitch
  split
  · split
    · next stem _ => exact has_modify_active h fun b => { b with text := stem }
    · exact Iff.rfl
  · exact Iff.rfl

theorem has_pushLiteral (html : List Char) : (s.pushLiteral html).Has slot ↔ s.Has slot := by
  unfold pushLiteral
  split
  · exact Iff.rfl
  · split
    · split
      · exact has_push h _
      · have hsettled : s.settle.Has s.settle.active := (has_settle h).mpr (by rwa [active_settle])
        exact (has_push hsettled html).trans (has_settle h)
    · exact has_push h html

theorem has_apply_single (text : String) (replace : Bool) :
    (s.apply (.single text) replace).Has slot ↔ s.Has slot := by
  cases replace with
  | false =>
    have hstitched : (s.stitch text.toList).Has (s.stitch text.toList).active :=
      (has_stitch h _).mpr (by rwa [active_stitch])
    exact (has_push hstitched _).trans (has_stitch h _)
  | true =>
    have hclaimed : (s.claim s.active).Has (s.claim s.active).active :=
      (has_claim_active h).mpr (by rwa [active_claim])
    exact (has_push hclaimed _).trans (has_claim_active h)

end Opened

theorem has_applySlot (s : Slots) (replace : Bool) (entry : String × String) :
    (applySlot replace s entry).Has slot ↔ slot = .named entry.1 ∨ s.Has slot := by
  have happend (u : Slots) : (u.append (.named entry.1) entry.2.toList).Has slot ↔ _ :=
    has_modify u _ _
  cases replace with
  | false => exact happend s
  | true =>
    have hclaim : (s.claim (.named entry.1)).Has slot ↔ _ :=
      has_modify s _ fun _ => { owned := true }
    rw [applySlot, if_pos rfl, happend, hclaim, or_self_left]

theorem has_applySlots (s : Slots) (replace : Bool) (entries : List (String × String)) :
    (entries.foldl (applySlot replace) s).Has slot ↔
      s.Has slot ∨ ∃ name ∈ entries.map (·.1), slot = .named name := by
  induction entries generalizing s with
  | nil => simp
  | cons entry rest ih =>
    rw [List.foldl_cons, ih, has_applySlot, or_comm (a := slot = _), or_assoc]
    simp

theorem has_step (h : s.Has s.active) (step : Step) :
    (s.step step).Has slot ↔ s.Has slot ∨ ∃ name ∈ step.names, slot = .named name := by
  cases step with
  | switch name =>
    have hswitch : (s.switch name).Has slot ↔ _ := has_modify s.settle (.named name) id
    rw [Slots.step, hswitch, has_settle h, or_comm]
    simp [Step.names]
  | literal html => exact (has_pushLiteral h html).trans (by simp [Step.names])
  | notice message => exact (has_push h _).trans (by simp [Step.names])
  | fragment f =>
    obtain ⟨text, _, _, _, _, _, _, _, _, replace⟩ := f
    cases text with
    | none =>
      cases replace with
      | false => simp [Slots.step, apply, Step.names]
      | true => exact (has_claim_active h).trans (by simp [Step.names])
    | single text => exact (has_apply_single h text replace).trans (by simp [Step.names])
    | slots texts => exact has_applySlots s replace texts.entries

theorem has_active_step (h : s.Has s.active) (step : Step) :
    (s.step step).Has (s.step step).active := by
  rw [has_step h, active_step]
  cases step with
  | switch name => exact .inr ⟨name, List.mem_singleton.mpr rfl, rfl⟩
  | literal html => exact .inl h
  | notice message => exact .inl h
  | fragment f => exact .inl h

theorem has_run (h : s.Has s.active) (steps : List Step) :
    (steps.foldl Slots.step s).Has (steps.foldl Slots.step s).active ∧
      ∀ slot, (steps.foldl Slots.step s).Has slot ↔
        s.Has slot ∨ ∃ name ∈ slotNames steps, slot = .named name := by
  induction steps generalizing s with
  | nil => exact ⟨h, by simp [slotNames]⟩
  | cons first rest ih =>
    obtain ⟨hactive, hrun⟩ := ih (has_active_step h first)
    refine ⟨hactive, fun slot => (hrun slot).trans ?_⟩
    rw [has_step h, or_assoc]
    simp only [slotNames, List.flatMap_cons, List.mem_append, or_and_right, exists_or]

theorem has_named_iff (s : Slots) (name : String) : s.Has (.named name) ↔ name ∈ s.named.keys :=
  Assoc.isSome_lookup_iff name s.named.entries

theorem isEmpty_named_iff (s : Slots) : s.named.isEmpty ↔ ∀ name, ¬ s.Has (.named name) := by
  simp only [has_named_iff, Assoc.isEmpty, Assoc.keys, List.isEmpty_iff]
  rw [← List.eq_nil_iff_forall_not_mem, List.map_eq_nil_iff]

theorem at?_text_named (s : Slots) (name : String) :
    s.text.at? (.named name) = (s.held? (.named name)).map fun b => String.ofList b.text := by
  unfold text
  split
  · next hempty =>
    have hnone : s.held? (.named name) = none :=
      Option.not_isSome_iff_eq_none.mp ((isEmpty_named_iff s).mp hempty name)
    rw [hnone]
    rfl
  · exact Assoc.lookup_map (fun b : Buffer => String.ofList b.text) name s.named.entries

theorem at?_text_unnamed (s : Slots) :
    s.text.at? .unnamed =
      if s.named.isEmpty then some (String.ofList s.unnamed.text) else none := by
  unfold text
  split <;> rfl

end Slots

namespace Draft

variable {slot : SlotName}

theorem slots_run (steps : List Step) : (run steps).slots = steps.foldl Slots.step {} :=
  slots_foldl steps {}

theorem has_settle_run (steps : List Step) (name : String) :
    (run steps).slots.settle.Has (.named name) ↔ name ∈ slotNames steps := by
  have hunnamed : ({} : Slots).Has .unnamed := rfl
  obtain ⟨hactive, hrun⟩ := Slots.has_run hunnamed steps
  rw [slots_run, Slots.has_settle hactive, hrun (.named name)]
  have hnone : ¬ ({} : Slots).Has (.named name) := Bool.false_ne_true
  simp [hnone]

theorem isEmpty_named_run (steps : List Step) :
    (run steps).slots.settle.named.isEmpty ↔ slotNames steps = [] := by
  simp only [Slots.isEmpty_named_iff, has_settle_run, ← List.eq_nil_iff_forall_not_mem]

/-- Runs of which the same is addressed to a slot finish with the same text in it, unless it is the
unnamed slot and one of them alone has named slots. The finished text has exactly the named slots
that the run switches or writes to, and is a single text if there are none. All along, only the
active slot is owed a closing tag: a run that keeps the name of the slot that is owed one comes to
the same slots. -/
theorem finish_isolated {steps others : List Step}
    (h : addressed slot .unnamed steps = addressed slot .unnamed others) :
    ((slot = .unnamed → (slotNames steps = [] ↔ slotNames others = [])) →
      (run steps).finish.text.at? slot = (run others).finish.text.at? slot) ∧
    ((∃ text, (run steps).finish.text = .single text) ↔ slotNames steps = []) ∧
    (∀ texts, (run steps).finish.text = .slots texts →
      ∀ name, name ∈ texts.keys ↔ name ∈ slotNames steps) ∧
    let ledger := steps.foldl Ledger.step {}
    (∀ slot, ledger.owed = some slot → slot = ledger.active) ∧
      ledger = .ofSlots (run steps).slots ∧ ledger.settle = .ofSlots (run steps).slots.settle := by
  refine ⟨fun hunnamed => ?_, ?_, fun texts htexts name => ?_, ?_⟩
  · have hsteps := Slots.run_addressed (.refl slot {}) steps
    have hothers := Slots.run_addressed (.refl slot {}) others
    rw [← slots_run] at hsteps hothers
    have hagree := (hsteps.trans (h ▸ hothers.symm)).settle
    cases slot with
    | named name =>
      have hheld := hagree.held
      rw [finish, finish, Slots.at?_text_named, Slots.at?_text_named, hheld]
    | unnamed =>
      have hheld : (run steps).slots.settle.unnamed = (run others).slots.settle.unnamed :=
        Option.some.inj hagree.held
      have hempty := hunnamed rfl
      rw [← isEmpty_named_run, ← isEmpty_named_run, ← Bool.eq_iff_iff] at hempty
      rw [finish, finish, Slots.at?_text_unnamed, Slots.at?_text_unnamed, hheld, hempty]
  · rw [← isEmpty_named_run, finish, Slots.text]
    split
    · next hempty => exact iff_of_true ⟨_, rfl⟩ hempty
    · next hempty => exact iff_of_false (fun ⟨_, h⟩ => nomatch h) hempty
  · rw [← has_settle_run, Slots.has_named_iff]
    rw [finish, Slots.text] at htexts
    split at htexts
    · cases htexts
    · obtain rfl := PageText.slots.inj htexts
      simp [Assoc.keys]
  · intro ledger
    have hledger : ledger = .ofSlots (run steps).slots := by
      rw [slots_run]
      exact Ledger.run_ofSlots {} steps
    rw [hledger]
    exact ⟨fun slot => Ledger.eq_active_of_owed, rfl, Ledger.settle_ofSlots _⟩

/-- Inline text joins a paragraph of the unnamed slot, and is still owed its closing tag when the
run goes on with an aside. -/
def aside (before : List Step) : List Step :=
  before ++ [.switch "aside", .literal "<p>See</p>".toList, .fragment { text := .single " also" }]

def joined : List Step :=
  [.literal "<p>Hello</p>".toList, .fragment { text := .single " there" }]

def menu : Step :=
  .fragment { text := .slots (.ofList [("menu", "Home")]) }

theorem finish_isolated_aside :
    addressed (.named "aside") .unnamed (aside joined) =
      addressed (.named "aside") .unnamed (aside [menu]) ∧
      (run (aside joined)).finish.text.at? (.named "aside") =
        (run (aside [menu])).finish.text.at? (.named "aside") ∧
      (run (aside [menu])).finish.text.at? (.named "aside") = some "<p>See also</p>" := by
  have haddressed : addressed (.named "aside") .unnamed (aside joined) =
      addressed (.named "aside") .unnamed (aside [menu]) := rfl
  exact ⟨haddressed, (finish_isolated haddressed).1 nofun, by decide +kernel⟩

/-- The text of the unnamed slot is lost to what is addressed to another one. -/
theorem finish_drops_unnamed :
    addressed .unnamed .unnamed joined = addressed .unnamed .unnamed (joined ++ [menu]) ∧
      (run joined).finish.text.at? .unnamed = some "<p>Hello there</p>" ∧
      (run (joined ++ [menu])).finish.text.at? .unnamed = none :=
  ⟨rfl, by decide +kernel, by decide +kernel⟩

end Draft

end ContentServer
