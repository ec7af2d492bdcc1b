import ContentServer.Text.Octets
import ContentServer.Time.Instant

namespace ContentServer.Time

def decimal (digits : List Char) : Nat :=
  digits.foldl (fun n c => n * 10 + (c.toNat - '0'.toNat)) 0

def number? (most : Nat) (cs : List Char) : Option (Nat × List Char) :=
  let digits := (cs.take most).takeWhile Char.isDigit
  if digits.isEmpty then none else some (decimal digits, cs.drop digits.length)

/-- The nanoseconds that a row of fraction digits tells; digits after the ninth are dropped. -/
def nanoseconds (digits : List Char) : Nat :=
  decimal ((digits.take 9).rightpad 9 '0')

def fraction? (cs : List Char) : Option (Nat × List Char) :=
  let digits := cs.takeWhile Char.isDigit
  if digits.isEmpty then none else some (nanoseconds digits, cs.drop digits.length)

def isMinus? (c : Char) : Option Bool :=
  if c = '+' then some false
  else if c = '-' || c.toNat = 0x2212 then some true
  else none

def offsetMinutes (negative : Bool) (hours minutes : Nat) : Int :=
  if negative then -((60 * hours + minutes : Nat) : Int) else (60 * hours + minutes : Nat)

inductive Fault where
  | tooShort
  | invalid
  | outOfRange
  | tooLong
  deriving DecidableEq, Repr

def Fault.message : Fault → String
  | tooShort => "premature end of input"
  | invalid => "input contains invalid characters"
  | outOfRange => "input is out of range"
  | tooLong => "trailing input"

namespace Strict

def digits : Nat → List Char → Except Fault (List Char × List Char)
  | 0, cs => .ok ([], cs)
  | n + 1, c :: cs =>
    if c.isDigit then (digits n cs).map fun (ds, rest) => (c :: ds, rest) else .error .invalid
  | _ + 1, [] => .error .invalid

def number (n : Nat) (cs : List Char) : Except Fault (Nat × List Char) :=
  (digits n cs).map fun (ds, rest) => (decimal ds, rest)

def separator (allowed : List Char) : List Char → Except Fault (List Char)
  | c :: cs => if c ∈ allowed then .ok cs else .error .invalid
  | [] => .error .tooShort

def orOutOfRange {α : Type} : Option α → Except Fault α
  | some a => .ok a
  | none => .error .outOfRange

def date (cs : List Char) : Except Fault (Date × List Char) := do
  let (year, cs) ← number 4 cs
  let cs ← separator ['-'] cs
  let (month, cs) ← number 2 cs
  let cs ← separator ['-'] cs
  let (day, cs) ← number 2 cs
  let date ← orOutOfRange (Date.ofFields? year month day)
  return (date, cs)

def fraction (cs : List Char) : Except Fault (Nat × List Char) :=
  match cs with
  | '.' :: [] => .error .tooShort
  | '.' :: rest =>
    match fraction? rest with
    | some found => .ok found
    | none => .error .invalid
  | _ => .ok (0, cs)

def clock (date : Date) (cs : List Char) : Except Fault (Instant × List Char) := do
  let (hour, cs) ← number 2 cs
  let cs ← separator [':'] cs
  let (minute, cs) ← number 2 cs
  let cs ← separator [':'] cs
  let (second, cs) ← number 2 cs
  let (nano, cs) ← fraction cs
  let t ← orOutOfRange (Instant.ofFields? date hour minute second nano)
  return (t, cs)

/-- Two digits of an offset. One lone ASCII character is too little to judge. -/
def offsetField : List Char → Except Fault (Nat × List Char)
  | a :: b :: rest =>
    if a.isDigit && b.isDigit then .ok (decimal [a, b], rest) else .error .invalid
  | [c] => .error (if c.toNat < 0x80 then .tooShort else .invalid)
  | [] => .error .tooShort

def offset : List Char → Except Fault (Int × List Char)
  | [] => .error .tooShort
  | sign :: cs =>
    if sign = 'Z' || sign = 'z' then .ok (0, cs)
    else
      match isMinus? sign with
      | none => .error .invalid
      | some negative => do
        let (hours, cs) ← offsetField cs
        let cs ← separator [':'] cs
        let (minutes, cs) ← offsetField cs
        if hours < 24 && minutes < 60 then return (offsetMinutes negative hours minutes, cs)
        else .error .outOfRange

def leastOctets : Nat := 19

def instant (cs : List Char) : Except Fault Instant := do
  if Text.Utf8.size cs < leastOctets then throw .tooShort
  let (date, cs) ← date cs
  let cs ← separator ['T', 't', ' '] cs
  let (t, cs) ← clock date cs
  let (offset, cs) ← offset cs
  if !cs.isEmpty then throw .tooLong
  orOutOfRange (t.shiftBack? offset)

end Strict

end ContentServer.Time
