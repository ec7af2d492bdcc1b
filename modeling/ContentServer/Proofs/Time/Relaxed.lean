import ContentServer.Proofs.Time.RoundTrip
import ContentServer.Time.Relaxed

namespace ContentServer.Time

theorem number?_paddedDigits {most width n : Nat} (hwidth : 0 < width)
    (hmost : (paddedDigits width n).length ≤ most) {c : Char} (hc : ¬c.isDigit) (rest : List Char) :
    number? most (paddedDigits width n ++ c :: rest) = some (n, c :: rest) := by
  have hall : ∀ d ∈ paddedDigits width n, d.isDigit := fun _ hd => isDigit_of_mem_paddedDigits hd
  have htake : ((paddedDigits width n ++ c :: rest).take most).takeWhile Char.isDigit =
      paddedDigits width n := by
    obtain ⟨k, rfl⟩ := Nat.exists_eq_add_of_le hmost
    rw [List.take_length_add_append, List.takeWhile_append_of_pos hall]
    cases k with
    | zero => exact List.append_nil _
    | succ k => rw [List.take_succ_cons, List.takeWhile_cons_of_neg hc, List.append_nil]
  simp only [number?, htake, isEmpty_paddedDigits hwidth, List.drop_left, decimal_paddedDigits]
  rfl

theorem exists_paddedDigits_cons {width : Nat} (hwidth : 0 < width) (n : Nat) :
    ∃ c cs, paddedDigits width n = c :: cs ∧ c.isDigit := by
  obtain ⟨c, cs, hcons⟩ := List.exists_cons_of_length_pos
    (Nat.lt_of_lt_of_le hwidth (le_length_paddedDigits width n))
  exact ⟨c, cs, hcons, isDigit_of_mem_paddedDigits (hcons ▸ List.mem_cons_self)⟩

theorem isBlank_of_isDigit {c : Char} (h : c.isDigit) : Text.isBlank c = false := by
  unfold Char.isDigit at h
  rw [Bool.and_eq_true, decide_eq_true_eq, decide_eq_true_eq] at h
  have hlow : 48 ≤ c.toNat := h.1
  have hhigh : c.toNat ≤ 57 := h.2
  simp only [Text.isBlank, Bool.or_eq_false_iff, Bool.and_eq_false_iff, beq_eq_false_iff_ne,
    decide_eq_false_iff_not]
  omega

theorem trimStart_cons {c : Char} (hc : Text.isBlank c = false) (cs : List Char) :
    Text.trimStart (c :: cs) = c :: cs :=
  List.dropWhile_cons_of_neg (by simp [hc])

namespace Relaxed

theorem separator?_cons {sep : Char} (hsep : Text.isBlank sep = false) (rest : List Char) :
    separator? sep (sep :: rest) = some rest := by
  rw [separator?, trimStart_cons hsep]
  exact if_pos rfl

theorem field?_paddedDigits {n : Nat} (hn : n < 10 ^ 2) {c : Char} (hc : ¬c.isDigit)
    (rest : List Char) :
    field? (paddedDigits 2 n ++ c :: rest) = some (n, c :: rest) := by
  have hlength := length_paddedDigits (by decide : 0 < 2) hn
  have hnumber := number?_paddedDigits (by decide : 0 < 2) (Nat.le_of_eq hlength) hc rest
  obtain ⟨d, ds, hcons, hd⟩ := exists_paddedDigits_cons (by decide : 0 < 2) n
  rw [hcons, List.cons_append] at hnumber ⊢
  rw [field?, trimStart_cons (isBlank_of_isDigit hd), hnumber]

theorem year?_yearDigits (year : Int) {c : Char} (hc : ¬c.isDigit) (rest : List Char) :
    year? (yearDigits year ++ c :: rest) = some (year, c :: rest) := by
  have hsigned : number? (paddedDigits 4 year.natAbs ++ c :: rest).length
      (paddedDigits 4 year.natAbs ++ c :: rest) = some (year.natAbs, c :: rest) := by
    refine number?_paddedDigits (by decide) ?_ hc rest
    rw [List.length_append]
    exact Nat.le_add_right _ _
  unfold yearDigits
  split
  · next hplain =>
    simp only [Bool.and_eq_true, decide_eq_true_eq] at hplain
    have hlength := length_paddedDigits (by decide : 0 < 4) (n := year.toNat) (by omega)
    have hnumber := number?_paddedDigits (by decide : 0 < 4) (Nat.le_of_eq hlength) hc rest
    have hback : (year.toNat : Int) = year := Int.toNat_of_nonneg hplain.1
    obtain ⟨d, ds, hcons, hd⟩ := exists_paddedDigits_cons (by decide : 0 < 4) year.toNat
    rw [hcons, List.cons_append] at hnumber ⊢
    rw [year?, trimStart_cons (isBlank_of_isDigit hd)]
    -- A digit is no sign.
    split
    · next h =>
      obtain ⟨rfl, -⟩ := List.cons.inj h
      exact absurd hd (by decide)
    · next h =>
      obtain ⟨rfl, -⟩ := List.cons.inj h
      exact absurd hd (by decide)
    · rw [hnumber, Option.map_some]
      dsimp only
      rw [hback]
  · split
    · next hneg =>
      have hread (cs : List Char) :
          year? ('-' :: cs) =
            (number? cs.length cs).map fun read => (-(read.1 : Int), read.2) := rfl
      rw [List.cons_append, hread, hsigned, Option.map_some]
      dsimp only
      rw [Int.ofNat_natAbs_of_nonpos (by omega), Int.neg_neg]
    · next hneg =>
      have hread (cs : List Char) :
          year? ('+' :: cs) = (number? cs.length cs).map fun read => ((read.1 : Int), read.2) := rfl
      rw [List.cons_append, hread, hsigned, Option.map_some]
      dsimp only
      rw [Int.natAbs_of_nonneg (by omega)]

theorem date?_digits (d : Date) {c : Char} (hc : ¬c.isDigit) (rest : List Char) :
    date? (d.digits ++ c :: rest) = some (d, c :: rest) := by
  have hhyphen : ¬Char.isDigit '-' := by decide
  simp only [date?, Date.digits, List.append_assoc, List.cons_append, year?_yearDigits _ hhyphen,
    field?_paddedDigits d.month_lt hhyphen, field?_paddedDigits d.day_lt hc, Option.bind_eq_bind,
    Option.bind_some, separator?_cons (by decide : Text.isBlank '-' = false), Date.ofFields?_fields]
  rfl

theorem clock?_digits (t : Instant) {c : Char} (hdigit : ¬c.isDigit) (hpoint : c ≠ '.')
    (rest : List Char) :
    clock? t.date (t.clockDigits ++ Instant.fractionDigits t.nano ++ c :: rest) =
      some (t, c :: rest) := by
  have hcolon : ¬Char.isDigit ':' := by decide
  have hhour : t.hour < 10 ^ 2 := Nat.lt_trans t.hour_lt (by decide)
  have hminute : t.minute < 10 ^ 2 := Nat.lt_trans t.minute_lt (by decide)
  have hsecond : t.second < 10 ^ 2 := Nat.lt_of_le_of_lt t.second_le (by decide)
  simp only [clock?, Instant.clockDigits, List.append_assoc, List.cons_append,
    field?_paddedDigits hhour hcolon, field?_paddedDigits hminute hcolon, Option.bind_eq_bind,
    Option.bind_some, separator?_cons (by decide : Text.isBlank ':' = false)]
  obtain ⟨hnone, hzero⟩ | ⟨width, n, hsome, hpos, hle, hn, hnano⟩ :=
    Instant.fractionDigits_cases t.nano_lt
  · rw [hnone, List.nil_append, field?_paddedDigits hsecond hdigit]
    simp only [Option.bind_some]
    split
    · next h => exact absurd (List.cons.inj h).1 hpoint
    · simp only [Option.bind_some, ← hzero, Instant.ofFields?_fields]
      rfl
  · rw [hsome, List.cons_append, field?_paddedDigits hsecond (by decide)]
    simp only [Option.bind_some, fraction?_paddedDigits hpos hle hn hdigit, hnano,
      Instant.ofFields?_fields]
    rfl

/-- An instant is read back from the text that documents hold of it. -/
theorem instant?_zuluText (t : Instant) : instant? t.zuluText.toList = some t := by
  have hz : ¬Char.isDigit 'Z' := by decide
  have hclock := clock?_digits t hz (by decide) []
  have ht : ¬Char.isDigit 'T' := by decide
  have hdate := date?_digits t.date ht (t.clockDigits ++ Instant.fractionDigits t.nano ++ ['Z'])
  have htext : t.zuluText.toList =
      t.date.digits ++ 'T' :: (t.clockDigits ++ Instant.fractionDigits t.nano ++ ['Z']) := by
    simp only [Instant.zuluText, Instant.localDigits, String.toList_ofList, List.append_assoc,
      List.cons_append]
  have hend : Text.trimStart ['Z'] = ['Z'] := rfl
  have hoffset : offset? ['Z'] = some (0, []) := rfl
  rw [htext, instant?, hdate]
  simp only [Option.bind_eq_bind, Option.bind_some, decide_true, Bool.true_or, if_true, hclock,
    hend, hoffset, Instant.shiftBack?_zero]
  rfl

example : (Instant.ofFields? ⟨12024, 6, 30, by decide⟩ 23 59 60 250000000).map Instant.zuluText =
    some "+12024-06-30T23:59:60.250Z" := by
  decide +kernel

end Relaxed

end ContentServer.Time
