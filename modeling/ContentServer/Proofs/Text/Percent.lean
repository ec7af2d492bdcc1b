import ContentServer.Proofs.Text.Split
import ContentServer.Proofs.Text.Utf8
import ContentServer.Text.Octets

namespace ContentServer.Text.Percent

/-- May an octet stand for itself in a form? -/
def isPlain (octet : UInt8) : Bool :=
  (0x30 ≤ octet && octet ≤ 0x39) || (0x41 ≤ octet && octet ≤ 0x5A) || (0x61 ≤ octet && octet ≤ 0x7A) ||
    octet = 0x2A || octet = 0x2D || octet = 0x2E || octet = 0x5F

def hexDigit (n : Nat) : UInt8 :=
  UInt8.ofNat (if n < 10 then 0x30 + n else 0x37 + n)

/-- A blank is written as a plus sign, and what may not stand for itself as two hexadecimal
digits. -/
def writeOctet (octet : UInt8) : List UInt8 :=
  if octet = 0x20 then [0x2B]
  else if isPlain octet then [octet]
  else [0x25, hexDigit (octet.toNat / 16), hexDigit (octet.toNat % 16)]

def writeText (s : String) : List UInt8 :=
  (Utf8.encodeString s).flatMap writeOctet

def writePair (pair : String × String) : List UInt8 :=
  writeText pair.1 ++ 0x3D :: writeText pair.2

/-- The query that spells the pairs, in order. -/
def writeForm (pairs : List (String × String)) : String :=
  String.ofList (([0x26].intercalate (pairs.map writePair)).map fun octet => Char.ofNat octet.toNat)

def IsInner (octet : UInt8) : Prop :=
  octet.toNat < 0x80 ∧ octet ≠ 0x26 ∧ octet ≠ 0x3D

instance (octet : UInt8) : Decidable (IsInner octet) :=
  inferInstanceAs (Decidable (_ ∧ _))

theorem hexDigit_spec : ∀ n < 16,
    hexDigit? (hexDigit n) = some (UInt8.ofNat n) ∧ hexDigit n ≠ 0x2B ∧ IsInner (hexDigit n) := by
  decide

theorem isPlain_spec {octet : UInt8} (h : isPlain octet) :
    octet ≠ 0x25 ∧ octet ≠ 0x2B ∧ IsInner octet := by
  simp only [isPlain, Bool.or_eq_true, Bool.and_eq_true, decide_eq_true_eq, UInt8.le_iff_toNat_le,
    ← UInt8.toNat_inj, UInt8.reduceToNat] at h
  simp only [IsInner, ne_eq, ← UInt8.toNat_inj, UInt8.reduceToNat]
  omega

theorem isInner_of_mem_writeOctet {octet o : UInt8} (h : o ∈ writeOctet octet) : IsInner o := by
  unfold writeOctet at h
  split at h
  · obtain rfl := List.mem_singleton.mp h
    decide
  · split at h
    · next hplain =>
      obtain rfl := List.mem_singleton.mp h
      exact (isPlain_spec hplain).2.2
    · have hoctet := octet.toNat_lt
      simp only [List.mem_cons, List.not_mem_nil, or_false] at h
      obtain rfl | rfl | rfl := h
      · decide
      · exact (hexDigit_spec _ (by omega)).2.2
      · exact (hexDigit_spec _ (by omega)).2.2

theorem decode_cons_of_ne {octet : UInt8} (h : octet ≠ 0x25) (rest : List UInt8) :
    decode (octet :: rest) = octet :: decode rest := by
  rw [decode]
  rintro a b octets rfl
  exact absurd rfl h

def unplus (octet : UInt8) : UInt8 :=
  if octet = 0x2B then 0x20 else octet

theorem unplus_of_ne {octet : UInt8} (h : octet ≠ 0x2B) : unplus octet = octet :=
  if_neg h

theorem decode_writeOctet (octet : UInt8) (rest : List UInt8) :
    decode ((writeOctet octet).map unplus ++ rest) = octet :: decode rest := by
  by_cases hblank : octet = 0x20
  · subst hblank
    exact decode_cons_of_ne (by decide) rest
  by_cases hplain : isPlain octet
  · obtain ⟨hpercent, hplus, -⟩ := isPlain_spec hplain
    rw [writeOctet, if_neg hblank, if_pos hplain, List.map_singleton, unplus_of_ne hplus,
      List.singleton_append, decode_cons_of_ne hpercent]
  · have hoctet := octet.toNat_lt
    obtain ⟨hhigh, hhighplus, -⟩ := hexDigit_spec (octet.toNat / 16) (by omega)
    obtain ⟨hlow, hlowplus, -⟩ := hexDigit_spec (octet.toNat % 16) (by omega)
    have hwhole : UInt8.ofNat (octet.toNat / 16) * 16 + UInt8.ofNat (octet.toNat % 16) = octet := by
      calc UInt8.ofNat (octet.toNat / 16) * 16 + UInt8.ofNat (octet.toNat % 16)
          = UInt8.ofNat (octet.toNat / 16 * 16 + octet.toNat % 16) := by
            rw [UInt8.ofNat_add, UInt8.ofNat_mul]
            rfl
        _ = octet := by rw [Nat.div_add_mod', UInt8.ofNat_toNat]
    rw [writeOctet, if_neg hblank, if_neg hplain, List.map_cons, List.map_cons, List.map_singleton,
      unplus_of_ne hhighplus, unplus_of_ne hlowplus, unplus_of_ne (by decide)]
    simp only [List.cons_append, List.nil_append, decode, hhigh, hlow, hwhole]

theorem decode_writeText (octets rest : List UInt8) :
    decode ((octets.flatMap writeOctet).map unplus ++ rest) = octets ++ decode rest := by
  induction octets with
  | nil => rfl
  | cons octet octets ih =>
    rw [List.flatMap_cons, List.map_append, List.append_assoc, decode_writeOctet, ih,
      List.cons_append]

theorem formText_writeText (s : String) : formText (writeText s) = s := by
  have hdecode := decode_writeText (Utf8.encodeString s) []
  rw [List.append_nil, decode, List.append_nil] at hdecode
  change String.ofList (Utf8.decodeLossy (decode ((writeText s).map unplus))) = s
  rw [writeText, hdecode, Utf8.encodeString, Utf8.decodeLossy_encode, String.ofList_toList]

theorem isInner_of_mem_writeText {s : String} {octet : UInt8} (h : octet ∈ writeText s) :
    IsInner octet := by
  obtain ⟨_, -, hmem⟩ := List.mem_flatMap.mp h
  exact isInner_of_mem_writeOctet hmem

theorem formPair_writePair (pair : String × String) : formPair (writePair pair) = pair := by
  have hname : ∀ octet ∈ writeText pair.1, (octet != 0x3D) = true := by
    intro octet hmem
    simpa using (isInner_of_mem_writeText hmem).2.2
  rw [formPair, writePair, List.takeWhile_append_of_pos hname, List.dropWhile_append_of_pos hname]
  simp [formText_writeText]

theorem octet_of_mem_writePair {pair : String × String} {octet : UInt8} (h : octet ∈ writePair pair) :
    octet.toNat < 0x80 ∧ octet ≠ 0x26 := by
  rw [writePair, List.mem_append, List.mem_cons] at h
  obtain h | rfl | h := h
  · exact ⟨(isInner_of_mem_writeText h).1, (isInner_of_mem_writeText h).2.1⟩
  · decide
  · exact ⟨(isInner_of_mem_writeText h).1, (isInner_of_mem_writeText h).2.1⟩

theorem formPairs_writeForm (pairs : List (String × String)) :
    formPairs (writeForm pairs) = pairs := by
  by_cases hnil : pairs = []
  · subst hnil
    rfl
  have hne : pairs.map writePair ≠ [] := by simpa using hnil
  have hpieces :
      ∀ piece ∈ pairs.map writePair, ∀ octet ∈ piece, octet.toNat < 0x80 ∧ octet ≠ 0x26 := by
    intro piece hpiece octet hmem
    obtain ⟨pair, -, rfl⟩ := List.mem_map.mp hpiece
    exact octet_of_mem_writePair hmem
  have hascii : ∀ octet ∈ [0x26].intercalate (pairs.map writePair), octet.toNat < 0x80 := by
    intro octet hmem
    have hwhole := List.mem_cons_of_mem 0x26 hmem
    rw [cons_intercalate 0x26 hne] at hwhole
    obtain ⟨piece, hpiece, hmem⟩ := List.mem_flatMap.mp hwhole
    obtain rfl | hmem := List.mem_cons.mp hmem
    · decide
    · exact (hpieces piece hpiece octet hmem).1
  have hoctets :
      Utf8.encodeString (writeForm pairs) = [0x26].intercalate (pairs.map writePair) := by
    rw [Utf8.encodeString, writeForm, String.toList_ofList, Utf8.encode_ascii hascii]
  have hsplit : ([0x26].intercalate (pairs.map writePair)).splitOn 0x26 = pairs.map writePair :=
    List.splitOn_intercalate 0x26 (fun piece hpiece hmem => (hpieces piece hpiece _ hmem).2 rfl) hne
  have hfull : (pairs.map writePair).filter (! ·.isEmpty) = pairs.map writePair := by
    refine List.filter_eq_self.mpr fun piece hpiece => ?_
    obtain ⟨pair, -, rfl⟩ := List.mem_map.mp hpiece
    simp [writePair]
  rw [formPairs, hoctets, hsplit, hfull, List.map_map]
  exact (List.map_congr_left fun pair _ => formPair_writePair pair).trans (List.map_id pairs)

example : writeForm [("q", "a b"), ("preview", "ü&+")] =
  "q=a+b&preview=%C3%BC%26%2B" := by decide +kernel

end ContentServer.Text.Percent
