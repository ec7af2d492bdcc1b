import ContentServer.Json.Scalar

namespace ContentServer.Json

structure Member (σ : Type) where
  name : String
  isSet : σ → Bool
  read : σ → Reader σ
  optional : Bool

namespace Member

variable {σ α : Type}

def required (name : String) (get : σ → Option α) (set : σ → α → σ) (r : Reader α) : Member σ where
  name
  isSet s := (get s).isSome
  read s := do return set s (← r)
  optional := false

def defaulted (name : String) (get : σ → Option α) (set : σ → α → σ) (r : Reader α) : Member σ :=
  { required name get set r with optional := true }

end Member

namespace Reader

variable {σ α : Type}

/-- A field was given twice; the fault lies behind the brace if that comes next. -/
def duplicate (name : String) : Reader α := do
  match ← peekNonblank with
  | some '\x7d' => advance; fail (.duplicateField name)
  | _ => fail (.duplicateField name)

def fieldOf (fields : List (Member σ)) (s : σ) : Reader σ := do
  let name ← key
  match fields.find? (·.name == name) with
  | some field =>
    if field.isSet s then duplicate name
    else
      colon
      field.read s
  | none =>
    colon
    skipValue
    return s

def nextItem (first : Bool) : Reader Bool := do
  match ← peekNonblank with
  | none => failNext .eofInList
  | some c =>
    if c = ']' then return false
    else if first then return true
    else if c = ',' then
      advance
      anotherMember ']'
      return true
    else failNext .expectedListCommaOrEnd

/-- The values of fields in order; those that may be left out may lack at the end. -/
def positional (expected : String) : List (Member σ) → Nat → σ → Reader σ
  | [], _, s => return s
  | field :: fields, n, s => do
    if ← nextItem (n = 0) then
      let s ← field.read s
      positional expected fields (n + 1) s
    else if field.optional then positional expected fields n s
    else
      advance
      fail (.invalidLength n expected)

def closeList : Reader Unit := do
  match ← peekNonblank with
  | none => failNext .eofInList
  | some c =>
    if c = ']' then advance
    else if c = ',' then
      advance
      match ← peekNonblank with
      | some ']' => failNext .trailingComma
      | _ => failNext .trailingCharacters
    else failNext .trailingCharacters

/-- A structure of a name. `finish` completes it, or tells a field that must not be left out. -/
def struct (name : String) (fields : List (Member σ)) (empty : σ) (finish : σ → Except String α) :
    Reader α := do
  let complete (s : σ) : Reader α :=
    match finish s with
    | .ok a => return a
    | .error missing => fail (.missingField missing)
  match ← peekNonblank with
  | some '\x7b' =>
    advance
    complete (← members .object (fieldOf fields) empty)
  | some '[' =>
    advance
    let s ← positional s!"struct {name} with {fields.length} elements" fields 0 empty
    closeList
    complete s
  | _ => refuse s!"struct {name}"

end Reader

end ContentServer.Json
