namespace ContentServer

def isLeapYear (year : Int) : Bool :=
  year % 4 = 0 && (year % 100 ≠ 0 || year % 400 = 0)

def daysInMonth (year : Int) (month : Nat) : Nat :=
  if month = 2 then if isLeapYear year then 29 else 28
  else if month ∈ [4, 6, 9, 11] then 30
  else 31

/-- Is this a date of the calendar? It runs from the year -262143 to the year 262142. -/
def isDate (year : Int) (month day : Nat) : Bool :=
  -262143 ≤ year && year ≤ 262142 && 1 ≤ month && month ≤ 12 && 1 ≤ day && day ≤ daysInMonth year month

structure Date where
  year : Int
  month : Nat
  day : Nat
  valid : isDate year month day
  deriving DecidableEq, Repr

namespace Date

def ofFields? (year : Int) (month day : Nat) : Option Date :=
  if h : isDate year month day then some ⟨year, month, day, h⟩ else none

def next? (d : Date) : Option Date :=
  if d.day < daysInMonth d.year d.month then ofFields? d.year d.month (d.day + 1)
  else if d.month < 12 then ofFields? d.year (d.month + 1) 1
  else ofFields? (d.year + 1) 1 1

def previous? (d : Date) : Option Date :=
  if 1 < d.day then ofFields? d.year d.month (d.day - 1)
  else if 1 < d.month then ofFields? d.year (d.month - 1) (daysInMonth d.year (d.month - 1))
  else ofFields? (d.year - 1) 12 31

/-- Days since the last day of February of the year zero. -/
def dayNumber (d : Date) : Int :=
  let year := if d.month ≤ 2 then d.year - 1 else d.year
  let month : Int := if d.month ≤ 2 then d.month + 9 else d.month - 3
  365 * year + year / 4 - year / 100 + year / 400 + (153 * month + 2) / 5 + d.day

/-- The date with a day number, in the form of days, months and years that start in March. -/
def ofDayNumber? (n : Int) : Option Date :=
  let inEra := (n - 1) % 146097
  let yearOfEra := (inEra - inEra / 1460 + inEra / 36524 - inEra / 146096) / 365
  let inYear := inEra - (365 * yearOfEra + yearOfEra / 4 - yearOfEra / 100)
  let month := (5 * inYear + 2) / 153
  let year := yearOfEra + (n - 1) / 146097 * 400
  let day := (inYear - (153 * month + 2) / 5 + 1).toNat
  if month < 10 then ofFields? year (month.toNat + 3) day
  else ofFields? (year + 1) (month.toNat - 9) day

def weekday (d : Date) : Nat :=
  ((d.dayNumber + 1) % 7).toNat

theorem ofFields?_fields (d : Date) : ofFields? d.year d.month d.day = some d := by
  simp [ofFields?, d.valid]

end Date

structure Instant where
  date : Date
  hour : Nat
  minute : Nat
  second : Nat
  nano : Nat
  hour_lt : hour < 24
  minute_lt : minute < 60
  second_le : second ≤ 60
  nano_lt : nano < 1000000000
  deriving DecidableEq, Repr

namespace Instant

def ofFields? (date : Date) (hour minute second nano : Nat) : Option Instant :=
  if h : hour < 24 ∧ minute < 60 ∧ second ≤ 60 ∧ nano < 1000000000 then
    some ⟨date, hour, minute, second, nano, h.1, h.2.1, h.2.2.1, h.2.2.2⟩
  else none

/-- The instant of a local time whose clock runs `offset` minutes ahead of UTC, by less than a
day. -/
def shiftBack? (local_ : Instant) (offset : Int) : Option Instant :=
  let minutes : Int := 60 * local_.hour + local_.minute - offset
  let date? :=
    if minutes < 0 then local_.date.previous?
    else if minutes < 1440 then some local_.date
    else local_.date.next?
  let inDay := (minutes % 1440).toNat
  date?.bind fun date => ofFields? date (inDay / 60) (inDay % 60) local_.second local_.nano

def epochDay : Int := 719469

def ofEpochSeconds? (seconds : Int) : Option Instant :=
  let inDay := (seconds % 86400).toNat
  (Date.ofDayNumber? (epochDay + seconds / 86400)).bind fun date =>
    ofFields? date (inDay / 3600) (inDay / 60 % 60) (inDay % 60) 0

theorem ofFields?_fields (t : Instant) :
    ofFields? t.date t.hour t.minute t.second t.nano = some t := by
  simp [ofFields?, t.hour_lt, t.minute_lt, t.second_le, t.nano_lt]

theorem shiftBack?_zero (t : Instant) : shiftBack? t 0 = some t := by
  have hh := t.hour_lt
  have hm := t.minute_lt
  have h1 : ¬ ((60 * t.hour + t.minute : Int) - 0 < 0) := by omega
  have h2 : (60 * t.hour + t.minute : Int) - 0 < 1440 := by omega
  have h3 : (((60 * t.hour + t.minute : Int) - 0) % 1440).toNat = 60 * t.hour + t.minute := by omega
  have h4 : (60 * t.hour + t.minute) / 60 = t.hour := by omega
  have h5 : (60 * t.hour + t.minute) % 60 = t.minute := by omega
  simp only [shiftBack?, h1, h2, h3, h4, h5, if_false, if_true, Option.bind_some, ofFields?_fields]

end Instant

end ContentServer
