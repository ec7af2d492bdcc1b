import ContentServer.Time.Text

namespace ContentServer.Time.Format

inductive Pad where
  | none
  | zero
  | space
  deriving DecidableEq

inductive Item where
  | literal (text : List Char)
  | number (value : Instant → Int) (width : Nat) (pad : Pad)
  | text (write : Instant → List Char)

def fill (pad : Pad) (width : Nat) (digits : List Char) : List Char :=
  match pad with
  | .none => digits
  | .zero => List.replicate (width - digits.length) '0' ++ digits
  | .space => List.replicate (width - digits.length) ' ' ++ digits

/-- A number with its sign. Numbers of four digits with a larger value always show one. -/
def writeNumber (n : Int) (width : Nat) (pad : Pad) : List Char :=
  let digits := Nat.toDigits 10 n.natAbs
  if 0 ≤ n && (width != 4 || n < 10000) then fill pad width digits
  else
    let sign := if n < 0 then '-' else '+'
    let width := if width = 4 then width else width - 1
    match pad with
    | .zero => sign :: fill .zero width digits
    | pad => fill pad (width + 1) (sign :: digits)

def Item.write (t : Instant) : Item → List Char
  | literal cs => cs
  | number value width pad => writeNumber (value t) width pad
  | text write => write t

section Fields

variable (t : Instant)

def ordinal : Int :=
  t.date.dayNumber - (Date.ofFields? t.date.year 1 1).elim 0 Date.dayNumber + 1

def weekFrom (first : Nat) : Int :=
  (ordinal t - (t.date.weekday + 7 - first) % 7 + 6) / 7

def weeksOfYear (year : Int) : Int :=
  let last := (year + year / 4 - year / 100 + year / 400) % 7
  let before := (year - 1 + (year - 1) / 4 - (year - 1) / 100 + (year - 1) / 400) % 7
  if last = 4 || before = 3 then 53 else 52

/-- The year and the number of the week; the first week of a year holds its first Thursday. -/
def isoWeek : Int × Int :=
  let year := t.date.year
  let week := (ordinal t - (t.date.weekday + 1) + 10) / 7
  if week < 1 then (year - 1, weeksOfYear (year - 1))
  else if weeksOfYear year < week then (year + 1, 1)
  else (year, week)

def hourOfHalf : Int :=
  if t.hour % 12 = 0 then 12 else t.hour % 12

def epochSeconds : Int :=
  (t.date.dayNumber - Instant.epochDay) * 86400 + t.hour * 3600 + t.minute * 60 + min t.second 59

def longWeekday : String :=
  ["Monday", "Tuesday", "Wednesday", "Thursday", "Friday", "Saturday", "Sunday"].getD t.date.weekday ""

def longMonth : String :=
  ["January", "February", "March", "April", "May", "June", "July", "August", "September", "October",
    "November", "December"].getD (t.date.month - 1) ""

end Fields

def number? : Char → Option Item
  | 'Y' => some (.number (·.date.year) 4 .zero)
  | 'C' => some (.number (·.date.year / 100) 2 .zero)
  | 'y' => some (.number (·.date.year % 100) 2 .zero)
  | 'q' => some (.number (fun t => (t.date.month + 2) / 3) 1 .zero)
  | 'm' => some (.number (fun t => t.date.month) 2 .zero)
  | 'd' => some (.number (fun t => t.date.day) 2 .zero)
  | 'e' => some (.number (fun t => t.date.day) 2 .space)
  | 'j' => some (.number ordinal 3 .zero)
  | 'G' => some (.number (fun t => (isoWeek t).1) 4 .zero)
  | 'g' => some (.number (fun t => (isoWeek t).1 % 100) 2 .zero)
  | 'V' => some (.number (fun t => (isoWeek t).2) 2 .zero)
  | 'U' => some (.number (fun t => weekFrom t 6) 2 .zero)
  | 'W' => some (.number (fun t => weekFrom t 0) 2 .zero)
  | 'u' => some (.number (fun t => t.date.weekday + 1) 1 .zero)
  | 'w' => some (.number (fun t => (t.date.weekday + 1) % 7) 1 .zero)
  | 'H' => some (.number (fun t => t.hour) 2 .zero)
  | 'k' => some (.number (fun t => t.hour) 2 .space)
  | 'I' => some (.number hourOfHalf 2 .zero)
  | 'l' => some (.number hourOfHalf 2 .space)
  | 'M' => some (.number (fun t => t.minute) 2 .zero)
  | 'S' => some (.number (fun t => t.second) 2 .zero)
  | 'f' => some (.number (fun t => t.nano) 9 .zero)
  | 's' => some (.number epochSeconds 9 .none)
  | _ => none

def text? : Char → Option Item
  | 'A' => some (.text fun t => (longWeekday t).toList)
  | 'a' => some (.text fun t => (Instant.weekdayNames.getD t.date.weekday "").toList)
  | 'B' => some (.text fun t => (longMonth t).toList)
  | 'b' | 'h' => some (.text fun t => (Instant.monthNames.getD (t.date.month - 1) "").toList)
  | 'p' => some (.text fun t => if t.hour < 12 then ['A', 'M'] else ['P', 'M'])
  | 'P' => some (.text fun t => if t.hour < 12 then ['a', 'm'] else ['p', 'm'])
  | '+' => some (.text fun t => t.offsetText.toList)
  | 'Z' => some (.literal ['U', 'T', 'C'])
  | 'z' => some (.literal ['+', '0', '0', '0', '0'])
  | 'n' => some (.literal ['\n'])
  | 't' => some (.literal ['\t'])
  | '%' => some (.literal ['%'])
  | _ => none

def compound? : Char → Option String
  | 'D' | 'x' => some "m/d/y"
  | 'F' => some "Y-m-d"
  | 'R' => some "H:M"
  | 'T' | 'X' => some "H:M:S"
  | 'r' => some "I:M:S p"
  | 'v' => some "e-b-Y"
  | 'c' => some "a b e T Y"
  | _ => none

def simple (c : Char) : Item :=
  ((number? c).or (text? c)).getD (.literal [c])

def letter? (c : Char) : Option (List Item) :=
  match compound? c with
  | some letters =>
    some (letters.toList.flatMap fun c =>
      if c = 'T' then ['H', ':', 'M', ':', 'S'].map simple else [simple c])
  | none => ((number? c).or (text? c)).map ([·])

def fraction (point : Bool) (width : Nat) : Item :=
  .text fun t => (if point then ['.'] else []) ++ (paddedDigits 9 t.nano).take width

def padOf? : Char → Option Pad
  | '-' => some .none
  | '0' => some .zero
  | '_' => some .space
  | _ => none

def specifier? : List Char → Option (List Item × Nat)
  | '#' :: 'z' :: _ => some ([.literal ['+', '0', '0', '0', '0']], 2)
  | ':' :: ':' :: ':' :: 'z' :: _ => some ([.literal ['+', '0', '0']], 4)
  | ':' :: ':' :: 'z' :: _ => some ([.literal "+00:00:00".toList], 3)
  | ':' :: 'z' :: _ => some ([.literal "+00:00".toList], 2)
  | '.' :: '3' :: 'f' :: _ => some ([fraction true 3], 3)
  | '.' :: '6' :: 'f' :: _ => some ([fraction true 6], 3)
  | '.' :: '9' :: 'f' :: _ => some ([fraction true 9], 3)
  | '.' :: 'f' :: _ => some ([.text fun t => Instant.fractionDigits t.nano], 2)
  | '3' :: 'f' :: _ => some ([fraction false 3], 2)
  | '6' :: 'f' :: _ => some ([fraction false 6], 2)
  | '9' :: 'f' :: _ => some ([fraction false 9], 2)
  | c :: rest =>
    match padOf? c with
    | some pad =>
      match rest.head?.bind number? with
      | some (.number value width _) => some ([.number value width pad], 2)
      | _ => none
    | none => (letter? c).map (·, 1)
  | [] => none

/-- Reads a format, less the first `skip` characters; `none` if it names something unknown. -/
def itemsFrom? : Nat → List Char → Option (List Item)
  | _, [] => some []
  | skip + 1, _ :: cs => itemsFrom? skip cs
  | 0, c :: cs =>
    if c = '%' then
      match specifier? cs with
      | some (items, length) => (itemsFrom? length cs).map (items ++ ·)
      | none => none
    else (itemsFrom? 0 cs).map (.literal [c] :: ·)

def format? (format : String) (t : Instant) : Option String :=
  (itemsFrom? 0 format.toList).map fun items => String.ofList (items.flatMap (·.write t))

end ContentServer.Time.Format
