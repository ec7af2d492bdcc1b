import ContentServer.Time.Instant

namespace ContentServer

def paddedDigits (width n : Nat) : List Char :=
  let digits := Nat.toDigits 10 n
  List.replicate (width - digits.length) '0' ++ digits

/-- Four digits for the years 0 to 9999; others have a sign and at least four digits. -/
def yearDigits (year : Int) : List Char :=
  if 0 ≤ year && year ≤ 9999 then paddedDigits 4 year.toNat
  else (if year < 0 then '-' else '+') :: paddedDigits 4 year.natAbs

def Date.digits (d : Date) : List Char :=
  yearDigits d.year ++ '-' :: paddedDigits 2 d.month ++ '-' :: paddedDigits 2 d.day

namespace Instant

/-- The shortest of no, three, six or nine digits that tells the nanoseconds. -/
def fractionDigits (nano : Nat) : List Char :=
  if nano = 0 then []
  else if nano % 1000000 = 0 then '.' :: paddedDigits 3 (nano / 1000000)
  else if nano % 1000 = 0 then '.' :: paddedDigits 6 (nano / 1000)
  else '.' :: paddedDigits 9 nano

def clockDigits (t : Instant) : List Char :=
  paddedDigits 2 t.hour ++ ':' :: paddedDigits 2 t.minute ++ ':' :: paddedDigits 2 t.second

def localDigits (t : Instant) : List Char :=
  t.date.digits ++ 'T' :: t.clockDigits ++ fractionDigits t.nano

def dateText (t : Instant) : String :=
  String.ofList t.date.digits

def zuluText (t : Instant) : String :=
  String.ofList (t.localDigits ++ ['Z'])

def offsetText (t : Instant) : String :=
  String.ofList (t.localDigits ++ ['+', '0', '0', ':', '0', '0'])

def weekdayNames : List String :=
  ["Mon", "Tue", "Wed", "Thu", "Fri", "Sat", "Sun"]

def monthNames : List String :=
  ["Jan", "Feb", "Mar", "Apr", "May", "Jun", "Jul", "Aug", "Sep", "Oct", "Nov", "Dec"]

/-- The date of an HTTP header, as in `Tue, 05 Mar 2024 14:07:09 GMT`. -/
def httpDate (t : Instant) : String :=
  weekdayNames.getD t.date.weekday "" ++ ", " ++ String.ofList (paddedDigits 2 t.date.day) ++ " " ++
    monthNames.getD (t.date.month - 1) "" ++ " " ++ String.ofList (yearDigits t.date.year) ++ " " ++
    String.ofList t.clockDigits ++ " GMT"

end Instant

end ContentServer
