import ContentServer.Json.Collection

namespace ContentServer.Json

def Number.found : Number → Found
  | integer n => .integer n
  | float negative significand exponent => .float negative significand exponent

namespace Reader

variable {α : Type}

def wrongType (expected : String) (found : Found) : Reader α :=
  fail (.invalidType found expected)

def refuse (expected : String) : Reader α := do
  match ← peekNonblank with
  | none => failNext .eofInValue
  | some c =>
    if c = 'n' then advance; word ['u', 'l', 'l']; wrongType expected .null
    else if c = 't' then advance; word ['r', 'u', 'e']; wrongType expected (.bool true)
    else if c = 'f' then advance; word ['a', 'l', 's', 'e']; wrongType expected (.bool false)
    else if c = '-' then advance; wrongType expected (← number true).found
    else if c.isDigit then wrongType expected (← number false).found
    else if c = '"' then advance; wrongType expected (.text (String.ofList (← text)))
    else if c = '[' then wrongType expected .sequence
    else if c = '\x7b' then wrongType expected .map
    else failNext .expectedValue

def string : Reader String := do
  match ← peekNonblank with
  | some '"' => advance; return String.ofList (← text)
  | _ => refuse "a string"

def bool : Reader Bool := do
  match ← peekNonblank with
  | some 't' => advance; word ['r', 'u', 'e']; return true
  | some 'f' => advance; word ['a', 'l', 's', 'e']; return false
  | _ => refuse "a boolean"

def integer (expected : String) (least most : Int) : Reader Int := do
  let accept : Number → Reader Int
    | .integer n =>
      if least ≤ n && n ≤ most then return n
      else fail (.invalidValue s!"integer `{n}`, expected {expected}")
    | n => wrongType expected n.found
  match ← peekNonblank with
  | some '-' => advance; accept (← number true)
  | some c => if c.isDigit then accept (← number false) else refuse expected
  | none => refuse expected

def int64 : Reader Int64 := do
  return (← integer "i64" Int64.minValue.toInt Int64.maxValue.toInt).toInt64

def uint16 : Reader UInt16 := do
  return (← integer "u16" 0 (UInt16.size - 1 : Nat)).toNat.toUInt16

def uint32 : Reader UInt32 := do
  return (← integer "u32" 0 (UInt32.size - 1 : Nat)).toNat.toUInt32

def uint64 : Reader UInt64 := do
  return (← integer "u64" 0 (UInt64.size - 1 : Nat)).toNat.toUInt64

def nullable (r : Reader α) : Reader (Option α) := do
  match ← peekNonblank with
  | some 'n' => advance; word ['u', 'l', 'l']; return none
  | _ => return some (← r)

def list (item : Reader α) : Reader (List α) := do
  match ← peekNonblank with
  | some '[' => advance; items item
  | _ => refuse "a sequence"

def whole (r : Reader α) : Reader α := do
  let a ← r
  match ← peekNonblank with
  | none => return a
  | some _ => failNext .trailingCharacters

def read (r : Reader α) (text : String) : Except Fault α :=
  (whole r text.toList).map (·.value)

end Reader

end ContentServer.Json
