import ContentServer.Page.Assembly
import ContentServer.Proofs.Assoc

namespace ContentServer

/-- What literals and directives other than tables do to a page under construction. -/
inductive Step where
  | switch (name : String)
  | literal (html : List Char)
  | notice (message : String)
  | fragment (fragment : Fragment)

namespace Slots

def step (s : Slots) : Step → Slots
  | .switch name => s.switch name
  | .literal html => s.pushLiteral html
  | .notice message => s.pushNotice message
  | .fragment fragment => s.apply fragment.text fragment.replace

@[simp] theorem buffer_modify_self (s : Slots) (slot : SlotName) (f : Buffer → Buffer) :
    (s.modify slot f).buffer slot = f (s.buffer slot) := by
  cases slot with
  | unnamed => rfl
  | named name => simp only [modify, buffer, Assoc.get?_update_self, Option.getD_some]; rfl

theorem buffer_modify_of_ne (s : Slots) {slot other : SlotName} (h : other ≠ slot)
    (f : Buffer → Buffer) : (s.modify slot f).buffer other = s.buffer other := by
  cases slot with
  | unnamed =>
    cases other with
    | unnamed => exact absurd rfl h
    | named _ => rfl
  | named name =>
    cases other with
    | unnamed => rfl
    | named other =>
      have hne : other ≠ name := fun he => h (congrArg SlotName.named he)
      simp only [modify, buffer, Assoc.get?_update_of_ne _ hne]

@[simp] theorem active_modify (s : Slots) (slot : SlotName) (f : Buffer → Buffer) :
    (s.modify slot f).active = s.active := by
  cases slot <;> rfl

@[simp] theorem pending_modify (s : Slots) (slot : SlotName) (f : Buffer → Buffer) :
    (s.modify slot f).pending = s.pending := by
  cases slot <;> rfl

theorem pending_settle (s : Slots) : s.settle.pending = false := by
  unfold settle
  split
  · rfl
  · next hp => exact Bool.eq_false_iff.mpr hp

theorem buffer_push {s : Slots} {slot : SlotName} (h : s.active = slot) (text : List Char) :
    (s.push text).buffer slot = { s.buffer slot with text := (s.buffer slot).text ++ text } := by
  rw [push, append, h, buffer_modify_self]

end Slots

namespace Draft

def step (d : Draft) : Step → Draft
  | .switch name => d.switch name
  | .literal html => d.pushLiteral html
  | .notice message => d.pushNotice message
  | .fragment fragment => d.apply fragment

def run (steps : List Step) : Draft :=
  steps.foldl step {}

theorem slots_step (d : Draft) (step : Step) : (d.step step).slots = d.slots.step step := by
  cases step <;> rfl

theorem slots_foldl (steps : List Step) (d : Draft) :
    (steps.foldl step d).slots = steps.foldl Slots.step d.slots := by
  induction steps generalizing d with
  | nil => rfl
  | cons first rest ih => rw [List.foldl_cons, List.foldl_cons, ih, slots_step]

end Draft

/-- The text of a slot, if the finished text has that slot. -/
def PageText.at? : PageText → SlotName → Option String
  | single text, .unnamed => some text
  | slots texts, .named name => texts.get? name
  | _, _ => none

theorem Slots.text_at? {s : Slots} {slot : SlotName} {text : String}
    (h : s.text.at? slot = some text) :
    text = String.ofList (s.buffer slot).text := by
  unfold Slots.text at h
  split at h
  · cases slot with
    | unnamed => exact (Option.some.inj h).symm
    | named name => cases h
  · cases slot with
    | unnamed => cases h
    | named name =>
      have hfind :
          (s.named.entries.map fun e => (e.1, String.ofList e.2.text)).lookup name = some text := h
      rw [Assoc.lookup_map (fun b : Buffer => String.ofList b.text)] at hfind
      obtain ⟨b, hb, rfl⟩ := Option.map_eq_some_iff.mp hfind
      have hget : s.named.get? name = some b := hb
      simp only [Slots.buffer, hget, Option.getD_some]

end ContentServer
