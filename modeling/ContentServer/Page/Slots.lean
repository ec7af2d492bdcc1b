import ContentServer.Html
import ContentServer.Page.Fragment

namespace ContentServer

inductive SlotName where
  | unnamed
  | named (name : String)
  deriving DecidableEq, Repr

def SlotName.display : SlotName → String
  | unnamed => "(unnamed)"
  | named name => name

structure Buffer where
  text : List Char := []
  owned : Bool := false
  deriving DecidableEq, Repr, Inhabited

structure Slots where
  active : SlotName := .unnamed
  unnamed : Buffer := {}
  named : Assoc String Buffer := ∅
  /-- Has the active slot a paragraph whose closing tag is owed? -/
  pending : Bool := false
  deriving DecidableEq, Repr

namespace Slots

def buffer (s : Slots) : SlotName → Buffer
  | .unnamed => s.unnamed
  | .named name => (s.named.get? name).getD {}

/-- Changes what a slot holds; a named slot comes into being with its first change. -/
def modify (s : Slots) (slot : SlotName) (f : Buffer → Buffer) : Slots :=
  match slot with
  | .unnamed => { s with unnamed := f s.unnamed }
  | .named name => { s with named := s.named.update name f }

def append (s : Slots) (slot : SlotName) (text : List Char) : Slots :=
  s.modify slot fun b => { b with text := b.text ++ text }

def push (s : Slots) (text : List Char) : Slots :=
  s.append s.active text

def settle (s : Slots) : Slots :=
  if s.pending then { s.push Html.closingParagraph with pending := false } else s

def switch (s : Slots) (name : String) : Slots :=
  { s.settle.modify (.named name) id with active := .named name }

def acceptsLiterals (s : Slots) : Bool :=
  !(s.buffer s.active).owned

/-- Writes rendered literal text. After inline text, a paragraph goes on in place of opening
anew. -/
def pushLiteral (s : Slots) (html : List Char) : Slots :=
  if html.isEmpty || !s.acceptsLiterals then s
  else if s.pending then
    match List.isPrefixOf? Html.openingParagraph html with
    | some rest => { s.push rest with pending := false }
    | none => s.settle.push html
  else s.push html

def notice (message : String) : List Char :=
  "<div class=\"directive-error\">".toList ++ (Html.escape message).toList ++ "</div>".toList

def pushNotice (s : Slots) (message : String) : Slots :=
  s.push (notice message)

/-- Empties a slot and hands it over to a replacing fragment. -/
def claim (s : Slots) (slot : SlotName) : Slots :=
  { s.modify slot fun _ => { owned := true } with pending := s.pending && slot ≠ s.active }

def isInline (text : List Char) : Bool :=
  !text.isEmpty && text.head? != some '<' && text.getLast? != some '>'

/-- Opens the paragraph at the end of the active slot again, for inline text to join it. -/
def stitch (s : Slots) (text : List Char) : Slots :=
  if isInline text then
    match List.isSuffixOf? Html.closingParagraph (Text.trimEnd (s.buffer s.active).text) with
    | some stem => { s.modify s.active fun b => { b with text := stem } with pending := true }
    | none => s
  else s

def applySlot (replace : Bool) (s : Slots) (entry : String × String) : Slots :=
  let s := if replace then s.claim (.named entry.1) else s
  s.append (.named entry.1) entry.2.toList

def apply (s : Slots) (text : FragmentText) (replace : Bool) : Slots :=
  match text with
  | .none => if replace then s.claim s.active else s
  | .single text =>
    (if replace then s.claim s.active else s.stitch text.toList).push text.toList
  | .slots texts => texts.entries.foldl (applySlot replace) s

/-- The finished text: that of the named slots if there are any, else of the unnamed one. -/
def text (s : Slots) : PageText :=
  if s.named.isEmpty then .single (String.ofList s.unnamed.text)
  else .slots ⟨s.named.entries.map fun (name, b) => (name, String.ofList b.text)⟩

def replaced (s : Slots) : List SlotName :=
  (if s.unnamed.owned then [.unnamed] else []) ++
    (s.named.entries.filter (·.2.owned)).map fun e => .named e.1

end Slots

end ContentServer
