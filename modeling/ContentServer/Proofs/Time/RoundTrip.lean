import ContentServer.Time.Strict
import ContentServer.Time.Text
import Mathlib.Data.Nat.Digits.Defs

namespace ContentServer

open Time

theorem length_paddedDigits {width n : Nat} (hwidth : 0 < width) (hn : n < 10 ^ width) :
    (paddedDigits width n).length = width := by
  have hlength : (Nat.toDigits 10 n).length ≤ width :=
    Nat.toDigits_length 10 n width hwidth hn
  simp only [paddedDigits, List.length_append, List.length_replicate]
  omega

theorem le_length_paddedDigits (width n : Nat) : width ≤ (paddedDigits width n).length := by
  simp only [paddedDigits, List.length_append, List.length_replicate]
  omega

theorem isDigit_of_mem_paddedDigits {width n : Nat} {c : Char} (h : c ∈ paddedDigits width n) :
    c.isDigit := by
  obtain hzero | hdigit := List.mem_append.mp h
  · rw [List.eq_of_mem_replicate hzero]
    rfl
  · exact Nat.isDigit_of_mem_toDigits (by decide) (by decide) hdigit

theorem isEmpty_paddedDigits {width : Nat} (hwidth : 0 < width) (n : Nat) :
    (paddedDigits width n).isEmpty = false := by
  have hle := le_length_paddedDigits width n
  rw [List.isEmpty_eq_false_iff, ← List.length_pos_iff]
  omega

theorem Instant.fractionDigits_cases {nano : Nat} (hnano : nano < 1000000000) :
    (fractionDigits nano = [] ∧ nano = 0) ∨
    ∃ width n, fractionDigits nano = '.' :: paddedDigits width n ∧ 0 < width ∧ width ≤ 9 ∧
      n < 10 ^ width ∧
      10 ^ (9 - width) * n = nano := by
  unfold fractionDigits
  split
  · next hzero => exact .inl ⟨rfl, hzero⟩
  · right
    split
    · exact ⟨3, _, rfl, by decide, by decide, by omega, by omega⟩
    · split
      · exact ⟨6, _, rfl, by decide, by decide, by omega, by omega⟩
      · exact ⟨9, _, rfl, by decide, by decide, by omega, by omega⟩

namespace Time

theorem decimal_eq_ofDigitChars (digits : List Char) :
    decimal digits = Nat.ofDigitChars 10 digits 0 := by
  rw [Nat.ofDigitChars_eq_foldl]
  simp only [decimal, Nat.mul_comm]

theorem decimal_paddedDigits (width n : Nat) : decimal (paddedDigits width n) = n := by
  rw [decimal_eq_ofDigitChars, paddedDigits, Nat.ofDigitChars_append,
    Nat.ofDigitChars_replicate_zero, Nat.mul_zero, Nat.ofDigitChars_ten_toDigits]

namespace Strict

theorem digits_append {ds : List Char} (h : ∀ c ∈ ds, c.isDigit) (rest : List Char) :
    digits ds.length (ds ++ rest) = .ok (ds, rest) := by
  induction ds with
  | nil => rfl
  | cons c ds ih =>
    have hrest := ih fun d hd => h d (List.mem_cons_of_mem _ hd)
    rw [List.length_cons, List.cons_append, digits, if_pos (h c List.mem_cons_self), hrest]
    rfl

theorem number_paddedDigits {width n : Nat} (hwidth : 0 < width) (hn : n < 10 ^ width)
    (rest : List Char) : number width (paddedDigits width n ++ rest) = .ok (n, rest) := by
  have hall : ∀ c ∈ paddedDigits width n, c.isDigit := fun _ hc => isDigit_of_mem_paddedDigits hc
  have hdigits := digits_append hall rest
  rw [length_paddedDigits hwidth hn] at hdigits
  simp only [number, hdigits, Except.map, decimal_paddedDigits]

end Strict

/-- Digits of a fraction count from the left, so those left out at the end are zeros. -/
theorem nanoseconds_paddedDigits {width n : Nat} (hwidth : 0 < width) (hle : width ≤ 9)
    (hn : n < 10 ^ width) : nanoseconds (paddedDigits width n) = 10 ^ (9 - width) * n := by
  have hlength := length_paddedDigits hwidth hn
  have htake : (paddedDigits width n).take 9 = paddedDigits width n :=
    List.take_of_length_le (by omega)
  rw [nanoseconds, htake, decimal_eq_ofDigitChars, List.rightpad, Nat.ofDigitChars_append,
    Nat.ofDigitChars_replicate_zero, ← decimal_eq_ofDigitChars, decimal_paddedDigits, hlength]

theorem fraction?_paddedDigits {width n : Nat} (hwidth : 0 < width) (hle : width ≤ 9)
    (hn : n < 10 ^ width) {c : Char} (hc : ¬c.isDigit) (rest : List Char) :
    fraction? (paddedDigits width n ++ c :: rest) = some (10 ^ (9 - width) * n, c :: rest) := by
  have hall : ∀ d ∈ paddedDigits width n, d.isDigit := fun _ hd => isDigit_of_mem_paddedDigits hd
  have htake :
      (paddedDigits width n ++ c :: rest).takeWhile Char.isDigit = paddedDigits width n := by
    rw [List.takeWhile_append_of_pos hall, List.takeWhile_cons_of_neg hc, List.append_nil]
  simp only [fraction?, htake, isEmpty_paddedDigits hwidth, List.drop_left,
    nanoseconds_paddedDigits hwidth hle hn]
  rfl

namespace Strict

theorem fraction_paddedDigits {width n nano : Nat} (hwidth : 0 < width) (hle : width ≤ 9)
    (hn : n < 10 ^ width) (hnano : 10 ^ (9 - width) * n = nano) {c : Char} (hc : ¬c.isDigit)
    (rest : List Char) :
    fraction ('.' :: paddedDigits width n ++ c :: rest) = .ok (nano, c :: rest) := by
  have hread := fraction?_paddedDigits hwidth hle hn hc rest
  rw [hnano] at hread
  rw [List.cons_append]
  generalize paddedDigits width n ++ c :: rest = cs at hread
  cases cs with
  | nil => cases hread
  | cons d cs => simp only [fraction, hread]

theorem fraction_fractionDigits {nano : Nat} (hnano : nano < 1000000000) {c : Char}
    (hdigit : ¬c.isDigit) (hpoint : c ≠ '.') (rest : List Char) :
    fraction (Instant.fractionDigits nano ++ c :: rest) = .ok (nano, c :: rest) := by
  obtain ⟨hnone, hzero⟩ | ⟨width, n, hsome, hwidth, hle, hn, hvalue⟩ :=
    Instant.fractionDigits_cases hnano
  · rw [hnone, List.nil_append, hzero, fraction]
    · intro h
      exact hpoint (List.cons.inj h).1
    · intro tail h
      exact hpoint (List.cons.inj h).1
  · rw [hsome]
    exact fraction_paddedDigits hwidth hle hn hvalue hdigit rest

end Strict

end Time

namespace Date

theorem month_lt (d : Date) : d.month < 10 ^ 2 := by
  have hvalid := d.valid
  simp only [isDate, Bool.and_eq_true, decide_eq_true_eq] at hvalid
  omega

theorem day_lt (d : Date) : d.day < 10 ^ 2 := by
  have hvalid := d.valid
  have hdays : daysInMonth d.year d.month ≤ 31 := by
    unfold daysInMonth
    split
    · split <;> decide
    · split <;> decide
  simp only [isDate, Bool.and_eq_true, decide_eq_true_eq] at hvalid
  omega

def HasPlainYear (d : Date) : Prop :=
  0 ≤ d.year ∧ d.year ≤ 9999

end Date

theorem yearDigits_of_plain {d : Date} (h : d.HasPlainYear) :
    yearDigits d.year = paddedDigits 4 d.year.toNat := by
  rw [yearDigits, if_pos (by simpa [Date.HasPlainYear] using h)]

theorem exists_yearDigits_cons {d : Date} (h : ¬d.HasPlainYear) :
    ∃ sign, ¬sign.isDigit ∧ yearDigits d.year = sign :: paddedDigits 4 d.year.natAbs := by
  have hyear : ¬(0 ≤ d.year && d.year ≤ 9999) = true := by simpa [Date.HasPlainYear] using h
  rw [yearDigits, if_neg hyear]
  split
  · exact ⟨'-', by decide, rfl⟩
  · exact ⟨'+', by decide, rfl⟩

namespace Time.Strict

theorem separator_cons {c : Char} (cs : List Char) : separator [c] (c :: cs) = .ok cs := by
  simp [separator]

theorem date_digits {d : Date} (h : d.HasPlainYear) (rest : List Char) :
    date (d.digits ++ rest) = .ok (d, rest) := by
  have hyear : d.year.toNat < 10 ^ 4 := by
    have hle := h.2
    omega
  have hback : (d.year.toNat : Int) = d.year := Int.toNat_of_nonneg h.1
  simp only [date, Date.digits, yearDigits_of_plain h, List.append_assoc, List.cons_append]
  simp only [number_paddedDigits (by decide : 0 < 4) hyear,
    number_paddedDigits (by decide : 0 < 2) d.month_lt,
    number_paddedDigits (by decide : 0 < 2) d.day_lt, bind, Except.bind, separator_cons, hback,
    Date.ofFields?_fields]
  rfl

theorem clock_digits (t : Instant) {c : Char} (hdigit : ¬c.isDigit) (hpoint : c ≠ '.')
    (rest : List Char) :
    clock t.date (t.clockDigits ++ Instant.fractionDigits t.nano ++ c :: rest) =
      .ok (t, c :: rest) := by
  have hhour : t.hour < 10 ^ 2 := Nat.lt_trans t.hour_lt (by decide)
  have hminute : t.minute < 10 ^ 2 := Nat.lt_trans t.minute_lt (by decide)
  have hsecond : t.second < 10 ^ 2 := Nat.lt_of_le_of_lt t.second_le (by decide)
  simp only [clock, Instant.clockDigits, List.append_assoc, List.cons_append,
    number_paddedDigits (by decide : 0 < 2) hhour, number_paddedDigits (by decide : 0 < 2) hminute,
    number_paddedDigits (by decide : 0 < 2) hsecond, bind, Except.bind, separator_cons,
    fraction_fractionDigits t.nano_lt hdigit hpoint, Instant.ofFields?_fields]
  rfl

end Time.Strict

theorem toList_offsetText (t : Instant) :
    t.offsetText.toList =
      t.date.digits ++ 'T' :: (t.clockDigits ++ Instant.fractionDigits t.nano ++
        ['+', '0', '0', ':', '0', '0']) := by
  simp only [Instant.offsetText, Instant.localDigits, String.toList_ofList, List.append_assoc,
    List.cons_append]

theorem Text.Utf8.length_le_size (cs : List Char) : cs.length ≤ Text.Utf8.size cs := by
  induction cs with
  | nil => exact Nat.le_refl _
  | cons c cs ih =>
    have hsize := c.utf8Size_pos
    rw [List.length_cons, Text.Utf8.size]
    omega

theorem le_length_yearDigits (year : Int) : 4 ≤ (yearDigits year).length := by
  unfold yearDigits
  split
  · exact le_length_paddedDigits 4 _
  · exact Nat.le_succ_of_le (le_length_paddedDigits 4 _)

namespace Time.Strict

theorem leastOctets_le_size (t : Instant) : leastOctets ≤ Text.Utf8.size t.offsetText.toList := by
  have hyear := le_length_yearDigits t.date.year
  have hmonth := le_length_paddedDigits 2 t.date.month
  have hday := le_length_paddedDigits 2 t.date.day
  have hhour := le_length_paddedDigits 2 t.hour
  have hminute := le_length_paddedDigits 2 t.minute
  have hsecond := le_length_paddedDigits 2 t.second
  have hlength : leastOctets ≤ t.offsetText.toList.length := by
    simp only [toList_offsetText, Date.digits, Instant.clockDigits, List.length_append,
      List.length_cons, leastOctets]
    omega
  exact Nat.le_trans hlength (Text.Utf8.length_le_size _)

/-- An instant is read back from the text that is stored of it. -/
theorem instant_offsetText {t : Instant} (h : t.date.HasPlainYear) :
    instant t.offsetText.toList = .ok t := by
  have hsize := Nat.not_lt.mpr (leastOctets_le_size t)
  have hseparator (cs : List Char) : separator ['T', 't', ' '] ('T' :: cs) = .ok cs := rfl
  have hplus : ¬Char.isDigit '+' := by decide
  have hclock := clock_digits t hplus (by decide) ['0', '0', ':', '0', '0']
  have hoffset : offset ['+', '0', '0', ':', '0', '0'] = .ok (0, []) := rfl
  rw [instant, if_neg hsize, toList_offsetText, date_digits h]
  simp only [bind, Except.bind, hseparator, hclock, hoffset]
  rw [Instant.shiftBack?_zero]
  rfl

theorem date_digits_error {d : Date} (h : ¬d.HasPlainYear) (rest : List Char) :
    date (d.digits ++ rest) = .error .invalid := by
  obtain ⟨sign, hsign, hyear⟩ := exists_yearDigits_cons h
  have hdigits (cs : List Char) : digits 4 (sign :: cs) = .error .invalid := by
    rw [digits, if_neg hsign]
  simp only [date, Date.digits, hyear, List.cons_append, number, hdigits]
  rfl

/-- Other years are written with a sign, which no stored timestamp may begin with. -/
theorem instant_offsetText_error {t : Instant} (h : ¬t.date.HasPlainYear) :
    instant t.offsetText.toList = .error .invalid := by
  have hsize := Nat.not_lt.mpr (leastOctets_le_size t)
  rw [instant, if_neg hsize, toList_offsetText, date_digits_error h]
  rfl

end Time.Strict

end ContentServer
