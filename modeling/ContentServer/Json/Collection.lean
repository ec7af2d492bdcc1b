import ContentServer.Json.Number
import ContentServer.Json.Text

namespace ContentServer.Json.Reader

variable {α σ : Type}

/-- How a list or an object ends, and what is checked behind a comma in it. -/
structure Brackets where
  close : Char
  eof : Problem
  expected : Problem
  afterComma : Reader Unit

def anotherMember (close : Char) : Reader Unit := do
  match ← peekNonblank with
  | none => failNext .eofInValue
  | some c => if c = close then failNext .trailingComma

def Brackets.list : Brackets :=
  ⟨']', .eofInList, .expectedListCommaOrEnd, anotherMember ']'⟩

def Brackets.object : Brackets :=
  ⟨'\x7d', .eofInObject, .expectedObjectCommaOrEnd, anotherMember '\x7d'⟩

def moreMembers (b : Brackets) (member : σ → Reader σ) (s : σ) (cs : List Char) :
    Except Fault (Taken σ cs) :=
  match h : cs.dropWhile isBlank with
  | [] => .error ⟨b.eof, 0⟩
  | c :: rest =>
    have hs : c :: rest <:+ cs := h ▸ List.dropWhile_suffix isBlank
    have hr : rest <:+ cs := (List.suffix_cons c rest).trans hs
    if c = b.close then .ok ⟨s, rest, hr⟩
    else if c = ',' then
      match (do b.afterComma; member s) rest with
      | .error e => .error e
      | .ok t =>
        have : t.rest.length < cs.length := by
          have := t.suffix.length_le
          have := hs.length_le
          rw [List.length_cons] at this
          omega
        match moreMembers b member t.value t.rest with
        | .error e => .error e
        | .ok u => .ok ⟨u.value, u.rest, (u.suffix.trans t.suffix).trans hr⟩
    else .error ⟨b.expected, Text.Utf8.size (c :: rest) - 1⟩
termination_by cs.length

def members (b : Brackets) (member : σ → Reader σ) (s : σ) : Reader σ := do
  match ← peekNonblank with
  | none => failNext b.eof
  | some c =>
    if c = b.close then advance; return s
    else
      let s ← member s
      moreMembers b member s

def items (item : Reader α) : Reader (List α) := do
  let reversed ← members .list (fun l => do return (← item) :: l) []
  return reversed.reverse

def key : Reader String := do
  match ← peekNonblank with
  | none => failNext .eofInObject
  | some c =>
    if c = '"' then
      advance
      return String.ofList (← text)
    else failNext .keyNotString

def colon : Reader Unit := do
  match ← peekNonblank with
  | none => failNext .eofInObject
  | some c => if c = ':' then advance else failNext .expectedColon

def skipKey : Reader Unit := do
  match ← peekNonblank with
  | none => failNext .eofInObject
  | some c =>
    if c = '"' then
      advance
      skipText
      colon
    else failNext .keyNotString

def skip : Nat → Reader Unit
  | 0 => fail .tooDeep
  | depth + 1 => do
    match ← peekNonblank with
    | none => failNext .eofInValue
    | some c =>
      if c = 'n' then advance; word ['u', 'l', 'l']
      else if c = 't' then advance; word ['r', 'u', 'e']
      else if c = 'f' then advance; word ['a', 'l', 's', 'e']
      else if c = '-' then advance; skipNumber
      else if c.isDigit then skipNumber
      else if c = '"' then advance; skipText
      else if c = '[' then
        advance
        members { Brackets.list with afterComma := pure () } (fun _ => skip depth) ()
      else if c = '\x7b' then
        advance
        members { Brackets.object with afterComma := pure () } (fun _ => do skipKey; skip depth) ()
      else failNext .expectedValue

/-- Passes over a value. It cannot nest deeper than its text is long. -/
def skipValue : Reader Unit := fun cs =>
  skip (cs.length + 1) cs

end ContentServer.Json.Reader
