import ContentServer.Json.Reader

namespace ContentServer.Json

namespace Reader

def hexValue? (c : Char) : Option Nat :=
  if c.isDigit then some (c.toNat - '0'.toNat)
  else if 'a' ≤ c && c ≤ 'f' then some (c.toNat - 'a'.toNat + 10)
  else if 'A' ≤ c && c ≤ 'F' then some (c.toNat - 'A'.toNat + 10)
  else none

def unit : Reader Nat := fun cs =>
  match cs with
  | a :: b :: c :: d :: rest =>
    match hexValue? a, hexValue? b, hexValue? c, hexValue? d with
    | some w, some x, some y, some z =>
      .ok ⟨((w * 16 + x) * 16 + y) * 16 + z, rest, ⟨[a, b, c, d], rfl⟩⟩
    | _, _, _, _ => failAfter 4 .invalidEscape (a :: b :: c :: d :: rest)
  | cs => if Text.Utf8.size cs < 4 then .error ⟨.eofInString, 0⟩ else failAfter 4 .invalidEscape cs

/-- Takes a character that the second half of a pair of surrogates must open with. -/
def joint (c : Char) : Reader Unit := do
  match ← peek with
  | none => fail .eofInString
  | some d => if d = c then advance else failNext .unfinishedSurrogates

/-- The character of a `\u` escape; a pair of surrogates takes two escapes. -/
def unicodeEscape : Reader Char := do
  let high ← unit
  if 0xDC00 ≤ high && high ≤ 0xDFFF then fail .loneSurrogate
  else if high < 0xD800 || 0xDFFF < high then return Char.ofNat high
  else
    joint '\\'
    joint 'u'
    let low ← unit
    if low < 0xDC00 || 0xDFFF < low then fail .loneSurrogate
    else return Char.ofNat ((high - 0xD800) * 0x400 + (low - 0xDC00) + 0x10000)

def shortEscapes : List (Char × Char) :=
  [('"', '"'), ('\\', '\\'), ('/', '/'), ('b', '\x08'), ('f', '\x0c'), ('n', '\n'), ('r', '\r'),
    ('t', '\t')]

def escape : Reader Char := do
  match ← peek with
  | none => fail .eofInString
  | some c =>
    if c = 'u' then advance; unicodeEscape
    else
      match shortEscapes.lookup c with
      | some d => advance; return d
      | none => failNext .invalidEscape

def skipEscape : Reader Unit := do
  match ← peek with
  | none => fail .eofInString
  | some c =>
    if c = 'u' then advance; discard unit
    else if (shortEscapes.lookup c).isSome then advance
    else failNext .invalidEscape

def text : (cs : List Char) → Except Fault (Taken (List Char) cs)
  | [] => .error ⟨.eofInString, 0⟩
  | c :: rest =>
    if c = '"' then .ok ⟨[], rest, List.suffix_cons c rest⟩
    else if c = '\\' then
      match escape rest with
      | .error e => .error e
      | .ok d =>
        have := d.suffix.length_le
        match text d.rest with
        | .error e => .error e
        | .ok t => .ok ⟨d.value :: t.value, t.rest,
            (t.suffix.trans d.suffix).trans (List.suffix_cons c rest)⟩
    else if c.toNat < 0x20 then .error ⟨.controlCharacter, Text.Utf8.size rest⟩
    else
      match text rest with
      | .error e => .error e
      | .ok t => .ok ⟨c :: t.value, t.rest, t.suffix.trans (List.suffix_cons c rest)⟩
termination_by cs => cs.length
decreasing_by all_goals simp only [List.length_cons]; omega

def skipText : (cs : List Char) → Except Fault (Taken Unit cs)
  | [] => .error ⟨.eofInString, 0⟩
  | c :: rest =>
    if c = '"' then .ok ⟨(), rest, List.suffix_cons c rest⟩
    else if c = '\\' then
      match skipEscape rest with
      | .error e => .error e
      | .ok d =>
        have := d.suffix.length_le
        match skipText d.rest with
        | .error e => .error e
        | .ok t => .ok ⟨(), t.rest, (t.suffix.trans d.suffix).trans (List.suffix_cons c rest)⟩
    else if c.toNat < 0x20 then .error ⟨.controlCharacter, Text.Utf8.size (c :: rest)⟩
    else
      match skipText rest with
      | .error e => .error e
      | .ok t => .ok ⟨(), t.rest, t.suffix.trans (List.suffix_cons c rest)⟩
termination_by cs => cs.length
decreasing_by all_goals simp only [List.length_cons]; omega

end Reader

def quoteChar (c : Char) : List Char :=
  match c with
  | '"' => ['\\', '"']
  | '\\' => ['\\', '\\']
  | '\x08' => ['\\', 'b']
  | '\x0c' => ['\\', 'f']
  | '\n' => ['\\', 'n']
  | '\r' => ['\\', 'r']
  | '\t' => ['\\', 't']
  | c =>
    if c.toNat < 0x20 then
      ['\\', 'u', '0', '0', Nat.digitChar (c.toNat / 16), Nat.digitChar (c.toNat % 16)]
    else [c]

def quote (s : String) : List Char :=
  '"' :: s.toList.flatMap quoteChar ++ ['"']

end ContentServer.Json
