import ContentServer.Json.Scalar
import ContentServer.Json.Value

namespace ContentServer.Json

namespace Reader

variable {α β : Type} {cs mid rest : List Char}

/-- The reader takes a value off the front of a text, and this is left. -/
def Reads (r : Reader α) (cs : List Char) (a : α) (rest : List Char) : Prop :=
  ∃ taken, r cs = .ok taken ∧ taken.value = a ∧ taken.rest = rest

theorem Reads.pure (a : α) (cs : List Char) : Reads (Pure.pure a) cs a cs :=
  ⟨_, rfl, rfl, rfl⟩

theorem Reads.bind {r : Reader α} {f : α → Reader β} {a : α} {b : β} (hr : Reads r cs a mid)
    (hf : Reads (f a) mid b rest) : Reads (r >>= f) cs b rest := by
  obtain ⟨t, hr, rfl, rfl⟩ := hr
  obtain ⟨u, hf, rfl, rfl⟩ := hf
  refine ⟨⟨u.value, u.rest, u.suffix.trans t.suffix⟩, ?_, rfl, rfl⟩
  change Reader.bind r f cs = _
  rw [Reader.bind, hr]
  dsimp only
  rw [hf]

theorem Reads.map {r : Reader α} {a : α} (hr : Reads r cs a rest) (f : α → β) :
    Reads (do return f (← r)) cs (f a) rest :=
  hr.bind (.pure _ _)

theorem reads_peek (cs : List Char) : Reads peek cs cs.head? cs :=
  ⟨_, rfl, rfl, rfl⟩

theorem reads_peekNonblank {c : Char} (hc : isBlank c = false) (cs : List Char) :
    Reads peekNonblank (c :: cs) (some c) (c :: cs) := by
  have hdrop : (c :: cs).dropWhile isBlank = c :: cs := List.dropWhile_cons_of_neg (by simp [hc])
  exact ⟨_, rfl, congrArg List.head? hdrop, hdrop⟩

theorem reads_advance (c : Char) (cs : List Char) : Reads advance (c :: cs) () cs :=
  ⟨_, rfl, rfl, rfl⟩

theorem reads_word (w rest : List Char) : Reads (word w) (w ++ rest) () rest := by
  induction w with
  | nil => exact .pure _ _
  | cons c w ih =>
    refine (reads_peek _).bind ?_
    dsimp only [List.cons_append, List.head?_cons]
    rw [if_pos rfl]
    exact (reads_advance c _).bind ih

theorem Reads.read_eq {r : Reader α} {text : String} {a : α} (h : Reads r text.toList a []) :
    r.read text = .ok a := by
  have hend : Reads peekNonblank [] none [] := ⟨_, rfl, rfl, rfl⟩
  obtain ⟨taken, hwhole, rfl, -⟩ : Reads (whole r) text.toList a [] :=
    h.bind (hend.bind (.pure _ _))
  rw [read, hwhole]
  rfl

section Strings

theorem reads_text_end (rest : List Char) : Reads text ('"' :: rest) [] rest := by
  refine ⟨⟨[], rest, List.suffix_cons _ _⟩, ?_, rfl, rfl⟩
  rw [text, if_pos rfl]

theorem reads_text_plain {c : Char} {s : List Char} (hquote : c ≠ '"') (hescape : c ≠ '\\')
    (hcontrol : ¬c.toNat < 0x20) (hs : Reads text cs s rest) :
    Reads text (c :: cs) (c :: s) rest := by
  obtain ⟨t, ht, rfl, rfl⟩ := hs
  refine ⟨⟨c :: t.value, t.rest, t.suffix.trans (List.suffix_cons c cs)⟩, ?_, rfl, rfl⟩
  rw [text, if_neg hquote, if_neg hescape, if_neg hcontrol, ht]

theorem reads_text_escape {c : Char} {s : List Char} (hc : Reads escape cs c mid)
    (hs : Reads text mid s rest) : Reads text ('\\' :: cs) (c :: s) rest := by
  obtain ⟨d, hd, rfl, rfl⟩ := hc
  obtain ⟨t, ht, rfl, rfl⟩ := hs
  have hsuffix := (t.suffix.trans d.suffix).trans (List.suffix_cons '\\' cs)
  refine ⟨⟨d.value :: t.value, t.rest, hsuffix⟩, ?_, rfl, rfl⟩
  rw [text, if_neg (by decide), if_pos rfl, hd]
  dsimp only
  rw [ht]

theorem reads_escape_short {c d : Char} (hunit : c ≠ 'u') (hlookup : shortEscapes.lookup c = some d)
    (cs : List Char) : Reads escape (c :: cs) d cs := by
  refine (reads_peek _).bind ?_
  dsimp only [List.head?_cons]
  rw [if_neg hunit, hlookup]
  exact (reads_advance c cs).bind (.pure _ _)

theorem hexValue?_digitChar : ∀ n < 16, hexValue? n.digitChar = some n := by
  decide

theorem reads_escape_control {c : Char} (hcontrol : c.toNat < 0x20) (cs : List Char) :
    Reads escape ('u' :: '0' :: '0' :: (c.toNat / 16).digitChar :: (c.toNat % 16).digitChar :: cs)
      c cs := by
  have hunit : Reads unit ('0' :: '0' :: (c.toNat / 16).digitChar :: (c.toNat % 16).digitChar :: cs)
      c.toNat cs := by
    refine ⟨⟨_, cs, ⟨['0', '0', (c.toNat / 16).digitChar, (c.toNat % 16).digitChar], rfl⟩⟩, ?_,
      Nat.div_add_mod' c.toNat 16, rfl⟩
    have hzero : hexValue? '0' = some 0 := by decide
    rw [unit, hzero, hexValue?_digitChar _ (by omega), hexValue?_digitChar _ (by omega)]
    simp
  refine (reads_peek _).bind ?_
  dsimp only [List.head?_cons]
  rw [if_pos rfl]
  refine (reads_advance _ _).bind (hunit.bind ?_)
  have hlow : ¬(0xDC00 ≤ c.toNat && c.toNat ≤ 0xDFFF) = true := by simp; omega
  have hbasic : (c.toNat < 0xD800 || 0xDFFF < c.toNat) = true := by simp; omega
  rw [if_neg hlow, if_pos hbasic, Char.ofNat_toNat]
  exact .pure _ _

theorem reads_text_quoteChar (c : Char) {s : List Char} (hs : Reads text cs s rest) :
    Reads text (quoteChar c ++ cs) (c :: s) rest := by
  unfold quoteChar
  split
  case h_8 hquote hescape _ _ _ _ _ =>
    split
    · next hcontrol => exact reads_text_escape (reads_escape_control hcontrol cs) hs
    · next hcontrol => exact reads_text_plain hquote hescape hcontrol hs
  all_goals exact reads_text_escape (reads_escape_short (by decide) (by decide) cs) hs

theorem reads_text (s rest : List Char) :
    Reads text (s.flatMap quoteChar ++ '"' :: rest) s rest := by
  induction s with
  | nil => exact reads_text_end rest
  | cons c s ih =>
    rw [List.flatMap_cons, List.append_assoc]
    exact reads_text_quoteChar c ih

end Strings

/-- What may follow a value: nothing, or what ends it in a list or an object. -/
def Ends (rest : List Char) : Prop :=
  ∀ c ∈ rest.head?, c = ',' ∨ c = ']' ∨ c = '\x7d'

section Numbers

theorem Ends.head?_ne (h : Ends rest) {c : Char} (hc : c ≠ ',' ∧ c ≠ ']' ∧ c ≠ '\x7d') :
    rest.head? ≠ some c := by
  intro hhead
  obtain rfl | rfl | rfl := h c hhead
  · exact hc.1 rfl
  · exact hc.2.1 rfl
  · exact hc.2.2 rfl

theorem Ends.takeWhile_isDigit (h : Ends rest) {ds : List Char} (hds : ∀ d ∈ ds, d.isDigit) :
    (ds ++ rest).takeWhile Char.isDigit = ds ∧ (ds ++ rest).dropWhile Char.isDigit = rest := by
  rw [List.takeWhile_append_of_pos hds, List.dropWhile_append_of_pos hds]
  cases rest with
  | nil => exact ⟨List.append_nil _, rfl⟩
  | cons c rest =>
    have hc : ¬c.isDigit := by
      obtain rfl | rfl | rfl := h c rfl <;> decide
    rw [List.takeWhile_cons_of_neg hc, List.dropWhile_cons_of_neg hc, List.append_nil]
    exact ⟨rfl, rfl⟩

theorem exists_toDigits_cons (n : Nat) : ∃ c ds, Nat.toDigits 10 n = c :: ds ∧ c.isDigit := by
  obtain ⟨c, ds, hcons⟩ :=
    List.exists_cons_of_length_pos (Nat.length_toDigits_pos (b := 10) (n := n))
  have hmem : c ∈ Nat.toDigits 10 n := hcons ▸ List.mem_cons_self
  exact ⟨c, ds, hcons, Nat.isDigit_of_mem_toDigits (by decide) (by decide) hmem⟩

theorem exists_toDigits_cons_ne_zero {n : Nat} (hn : 0 < n) :
    ∃ c ds, Nat.toDigits 10 n = c :: ds ∧ c ≠ '0' := by
  induction n using Nat.strongRecOn with
  | ind n ih =>
    by_cases hlt : n < 10
    · refine ⟨_, _, Nat.toDigits_of_lt_base hlt, ?_⟩
      rw [Ne, Nat.digitChar_eq_zero]
      omega
    · obtain ⟨c, ds, hdigits, hc⟩ := ih (n / 10) (by omega) (by omega)
      refine ⟨c, ds ++ [(n % 10).digitChar], ?_, hc⟩
      rw [Nat.toDigits_of_base_le (by decide) (by omega), hdigits, List.cons_append]

theorem reads_integralDigits (n : Nat) (hrest : Ends rest) :
    Reads integralDigits (Nat.toDigits 10 n ++ rest) (Nat.toDigits 10 n) rest := by
  have hdigit : ∀ d ∈ Nat.toDigits 10 n, d.isDigit :=
    fun _ => Nat.isDigit_of_mem_toDigits (by decide) (by decide)
  refine (reads_peek _).bind ?_
  -- A zero stands alone, so it is not taken together with the digits behind it.
  obtain rfl | hn := Nat.eq_zero_or_pos n
  · refine (reads_advance '0' rest).bind ((reads_peek rest).bind ?_)
    cases rest with
    | nil => exact .pure _ _
    | cons c rest =>
      have hc : ¬c.isDigit := by
        obtain rfl | rfl | rfl := hrest c rfl <;> decide
      dsimp only [List.head?_cons]
      rw [if_neg hc]
      exact .pure _ _
  · obtain ⟨htake, hdrop⟩ := hrest.takeWhile_isDigit hdigit
    have hdigits : Reads digits (Nat.toDigits 10 n ++ rest) (Nat.toDigits 10 n) rest :=
      ⟨_, rfl, htake, hdrop⟩
    obtain ⟨c, ds, hcons, hc⟩ := exists_toDigits_cons_ne_zero hn
    rw [hcons] at hdigit hdigits ⊢
    dsimp only [List.cons_append, List.head?_cons]
    rw [if_neg hc, if_pos (hdigit c List.mem_cons_self)]
    exact hdigits

end Numbers

end Reader

theorem le_ofDigitChars (ds : List Char) (n : Nat) : n ≤ Nat.ofDigitChars 10 ds n := by
  induction ds generalizing n with
  | nil => exact Nat.le_refl n
  | cons c ds ih =>
    rw [Nat.ofDigitChars_cons]
    exact Nat.le_trans (by omega) (ih _)

theorem accumulate_of_le {limit : Nat} {ds : List Char} {n : Nat}
    (h : Nat.ofDigitChars 10 ds n ≤ limit) :
    accumulate limit n ds = (Nat.ofDigitChars 10 ds n, []) := by
  induction ds generalizing n with
  | nil => rfl
  | cons c ds ih =>
    have hstep : n * 10 + digitValue c = 10 * n + (c.toNat - '0'.toNat) := by
      rw [Nat.mul_comm, digitValue]
    rw [Nat.ofDigitChars_cons] at h ⊢
    rw [accumulate, hstep, if_neg (Nat.not_lt.mpr (Nat.le_trans (le_ofDigitChars ds _) h)), ih h]

namespace Reader

variable {rest : List Char}

theorem reads_number (negative : Bool) {n : Nat} (hn : n ≤ maxWord) (hrest : Ends rest) :
    Reads (number negative) (Nat.toDigits 10 n ++ rest) (integerNumber negative n) rest := by
  have hvalue : accumulate maxWord 0 (Nat.toDigits 10 n) = (n, []) := by
    rw [accumulate_of_le (by rwa [Nat.ofDigitChars_ten_toDigits]), Nat.ofDigitChars_ten_toDigits]
  refine (reads_integralDigits n hrest).bind ?_
  rw [hvalue]
  refine (reads_peek rest).bind ?_
  have hpoint : rest.head? ≠ some '.' := hrest.head?_ne (by decide)
  have hletter : ¬isExponentLetter rest.head? := by
    rw [isExponentLetter, Bool.or_eq_true, decide_eq_true_eq, decide_eq_true_eq]
    exact not_or.mpr ⟨hrest.head?_ne (by decide), hrest.head?_ne (by decide)⟩
  rw [if_neg hpoint, if_neg hletter, if_pos List.isEmpty_nil]
  exact .pure _ _

theorem isBlank_of_isDigit {c : Char} (h : c.isDigit) : isBlank c = false := by
  simp only [isBlank, Bool.or_eq_false_iff, decide_eq_false_iff_not]
  refine ⟨⟨⟨?_, ?_⟩, ?_⟩, ?_⟩ <;>
  · rintro rfl
    exact absurd h (by decide)

/-- A written integer of a type is read back, as long as the type is made up of 64-bit integers. -/
theorem reads_integer (expected : String) {least most n : Int} (hleast : least ≤ n)
    (hmost : n ≤ most) (hlow : Int64.minValue.toInt ≤ n) (hhigh : n ≤ maxWord) (hrest : Ends rest) :
    Reads (integer expected least most) ((toString n).toList ++ rest) n rest := by
  have haccept : (least ≤ n && n ≤ most) = true := by simp [hleast, hmost]
  rw [Int64.toInt_minValue] at hlow
  rw [Int.toString_eq_repr, Int.repr_eq_if]
  by_cases hn : 0 ≤ n
  · have hnumber := reads_number false (n := n.toNat) (by omega) hrest
    have hvalue : integerNumber false n.toNat = .integer n :=
      congrArg Number.integer (Int.toNat_of_nonneg hn)
    obtain ⟨c, ds, hcons, hdigit⟩ := exists_toDigits_cons n.toNat
    rw [hvalue] at hnumber
    rw [if_pos hn, Nat.toList_repr]
    rw [hcons, List.cons_append] at hnumber ⊢
    refine (reads_peekNonblank (isBlank_of_isDigit hdigit) _).bind ?_
    split
    · next hminus =>
      obtain rfl := Option.some.inj hminus
      exact absurd hdigit (by decide)
    · next hsome =>
      obtain rfl := Option.some.inj hsome
      rw [if_pos hdigit]
      refine hnumber.bind ?_
      dsimp only
      rw [if_pos haccept]
      exact .pure _ _
    · next hnone => cases hnone
  · have hnumber := reads_number true (n := (-n).toNat)
      (by simp only [maxWord, UInt64.size]; omega) hrest
    have hvalue : integerNumber true (-n).toNat = .integer n := by
      have hfits : ¬((-n).toNat = 0 || UInt64.size / 2 < (-n).toNat) = true := by
        simp only [UInt64.size, Bool.or_eq_true, decide_eq_true_eq]
        omega
      rw [integerNumber, if_neg (by decide), if_neg hfits]
      congr 1
      omega
    rw [hvalue] at hnumber
    rw [if_neg hn, String.toList_append, Nat.toList_repr]
    refine (reads_peekNonblank (c := '-') rfl _).bind ((reads_advance _ _).bind (hnumber.bind ?_))
    dsimp only
    rw [if_pos haccept]
    exact .pure _ _

end Reader

end ContentServer.Json
