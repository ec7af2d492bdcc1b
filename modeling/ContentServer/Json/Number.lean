import ContentServer.Json.Double
import ContentServer.Json.Reader

namespace ContentServer.Json

inductive Number where
  | integer (n : Int)
  | float (negative : Bool) (significand : Nat) (exponent : Int)
  deriving DecidableEq, Repr

def overflows (significand : Nat) (exponent : Int) : Bool :=
  significand != 0 && 0 < exponent &&
    (Double.maxPower < exponent || (Double.ofDecimal significand exponent).isInfinite)

def maxWord : Nat :=
  UInt64.size - 1

def maxExponent : Nat :=
  UInt32.size / 2 - 1

def digitValue (c : Char) : Nat :=
  c.toNat - '0'.toNat

/-- Appends digits to a number as long as it does not exceed `limit`; the rest are left over. -/
def accumulate (limit n : Nat) : List Char → Nat × List Char
  | [] => (n, [])
  | c :: digits =>
    if limit < n * 10 + digitValue c then (n, c :: digits)
    else accumulate limit (n * 10 + digitValue c) digits

namespace Reader

def digits : Reader (List Char) :=
  takeWhile Char.isDigit

/-- One or more digits of the integral part; a leading zero stands alone. -/
def integralDigits : Reader (List Char) := do
  match ← peek with
  | none => fail .eofInValue
  | some c =>
    if c = '0' then
      advance
      match ← peek with
      | some d => if d.isDigit then failNext .invalidNumber else return ['0']
      | none => return ['0']
    else if c.isDigit then digits
    else failNext .invalidNumber

def finite (negative : Bool) (significand : Nat) (exponent : Int) : Reader Number :=
  if overflows significand exponent then fail .numberOutOfRange
  else return .float negative significand exponent

def sign : Reader Bool := do
  match ← peek with
  | some '+' => advance; return false
  | some '-' => advance; return true
  | _ => return false

def exponentPart (negative : Bool) (significand : Nat) (exponent : Int) : Reader Number := do
  let below ← sign
  match ← peek with
  | none => fail .eofInValue
  | some c =>
    if !c.isDigit then failNext .invalidNumber
    else
      let ds ← digits
      let (n, excess) := accumulate maxExponent 0 ds
      if excess.isEmpty then
        finite negative significand (if below then exponent - n else exponent + n)
      else if significand != 0 && !below then
        fun cs => .error ⟨.numberOutOfRange, Text.Utf8.size cs + excess.length - 1⟩
      else return .float negative 0 0

def isExponentLetter (c : Option Char) : Bool :=
  c = some 'e' || c = some 'E'

def fractionPart (negative : Bool) (significand : Nat) (exponent : Int) : Reader Number := do
  let ds ← digits
  if ds.isEmpty then
    match ← peek with
    | none => failNext .eofInValue
    | some _ => failNext .invalidNumber
  else
    let (n, excess) := accumulate maxWord significand ds
    let exponent := exponent - (ds.length - excess.length : Nat)
    if isExponentLetter (← peek) then
      advance
      exponentPart negative n exponent
    else finite negative n exponent

def integerNumber (negative : Bool) (n : Nat) : Number :=
  if !negative then .integer n
  else if n = 0 || UInt64.size / 2 < n then .float true n 0
  else .integer (-n)

def number (negative : Bool) : Reader Number := do
  let ds ← integralDigits
  let (n, excess) := accumulate maxWord 0 ds
  let next ← peek
  if next = some '.' then
    advance
    fractionPart negative n excess.length
  else if isExponentLetter next then
    advance
    exponentPart negative n excess.length
  else if excess.isEmpty then return integerNumber negative n
  else finite negative n excess.length

def skipExponent : Reader Unit := do
  discard sign
  match ← peek with
  | some c => if c.isDigit then discard digits else failNext .invalidNumber
  | none => fail .invalidNumber

def skipNumber : Reader Unit := do
  match ← peek with
  | none => fail .invalidNumber
  | some _ =>
    discard integralDigits
    let next ← peek
    if next = some '.' then
      advance
      if (← digits).isEmpty then failNext .invalidNumber
      else if isExponentLetter (← peek) then
        advance
        skipExponent
    else if isExponentLetter next then
      advance
      skipExponent

end Reader

def Number.write : Number → List Char
  | integer n => (toString n).toList
  | float negative significand exponent =>
    (if negative then ['-'] else []) ++ (toString significand).toList ++
      'e' :: (toString exponent).toList

end ContentServer.Json
