import ContentServer.Text.Basic
import ContentServer.Time.Strict

namespace ContentServer.Time.Relaxed

def separator? (sep : Char) (cs : List Char) : Option (List Char) :=
  match Text.trimStart cs with
  | c :: rest => if c = sep then some rest else none
  | [] => none

def field? (cs : List Char) : Option (Nat × List Char) :=
  number? 2 (Text.trimStart cs)

/-- Up to four digits, or any number of them after a sign. -/
def year? (cs : List Char) : Option (Int × List Char) :=
  match Text.trimStart cs with
  | '-' :: rest => (number? rest.length rest).map fun (n, rest) => (-(n : Int), rest)
  | '+' :: rest => (number? rest.length rest).map fun (n, rest) => ((n : Int), rest)
  | rest => (number? 4 rest).map fun (n, rest) => ((n : Int), rest)

def date? (cs : List Char) : Option (Date × List Char) := do
  let (year, cs) ← year? cs
  let cs ← separator? '-' cs
  let (month, cs) ← field? cs
  let cs ← separator? '-' cs
  let (day, cs) ← field? cs
  let date ← Date.ofFields? year month day
  return (date, cs)

def clock? (date : Date) (cs : List Char) : Option (Instant × List Char) := do
  let (hour, cs) ← field? cs
  let cs ← separator? ':' cs
  let (minute, cs) ← field? cs
  let cs ← separator? ':' cs
  let (second, cs) ← field? cs
  let (nano, cs) ←
    match cs with
    | '.' :: digits => fraction? digits
    | _ => some (0, cs)
  let t ← Instant.ofFields? date hour minute second nano
  return (t, cs)

/-- The minutes ahead of UTC. Colons and blanks may stand between the hours and the minutes. -/
def offset? (cs : List Char) : Option (Int × List Char) :=
  match cs with
  | 'Z' :: rest | 'z' :: rest => some (0, rest)
  | _ =>
    if (cs.take 3).map Char.toLower = ['u', 't', 'c'] then some (0, cs.drop 3)
    else
      match cs with
      | [] => none
      | sign :: cs => do
        let negative ← isMinus? sign
        let (hours, cs) ← twoDigits? cs
        let (minutes, cs) ← twoDigits? (cs.dropWhile fun c => c == ':' || Text.isBlank c)
        if hours < 24 && minutes < 60 then return (offsetMinutes negative hours minutes, cs)
        else none
where
  twoDigits? : List Char → Option (Nat × List Char)
    | a :: b :: rest => if a.isDigit && b.isDigit then some (decimal [a, b], rest) else none
    | _ => none

def instant? (cs : List Char) : Option Instant := do
  let (date, cs) ← date? cs
  let cs ←
    match cs with
    | c :: rest => if c = 'T' || c = 't' || c = ' ' then some rest else none
    | [] => none
  let (t, cs) ← clock? date cs
  let (offset, cs) ← offset? (Text.trimStart cs)
  if (Text.trimStart cs).isEmpty then t.shiftBack? offset else none

end ContentServer.Time.Relaxed
