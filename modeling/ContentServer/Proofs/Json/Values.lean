import ContentServer.Json.Struct
import ContentServer.Proofs.Json.Reading

namespace ContentServer.Json

open Reader

variable {α σ : Type}

/-- The reader takes the written value for `a`, wherever a value may stand. -/
def ReadsBack (r : Reader α) (json : Json) (a : α) : Prop :=
  ∀ rest, Ends rest → Reads r (json.write ++ rest) a rest

theorem ReadsBack.map {β : Type} {r : Reader α} {json : Json} {a : α} (h : ReadsBack r json a)
    (f : α → β) :
    ReadsBack (do return f (← r)) json (f a) :=
  fun rest hrest => (h rest hrest).map f

def Opens (c : Char) : Prop :=
  isBlank c = false ∧ c ≠ ']' ∧ c ≠ '\x7d'

theorem opens_of_isDigit {c : Char} (h : c.isDigit) : Opens c ∧ c ≠ 'n' := by
  refine ⟨⟨isBlank_of_isDigit h, ?_, ?_⟩, ?_⟩ <;>
  · rintro rfl
    exact absurd h (by decide)

theorem exists_toList_toString_cons (n : Int) :
    ∃ c cs, (toString n).toList = c :: cs ∧ Opens c ∧ c ≠ 'n' := by
  rw [Int.toString_eq_repr, Int.repr_eq_if]
  split
  · obtain ⟨c, cs, hcons, hdigit⟩ := exists_toDigits_cons n.toNat
    rw [Nat.toList_repr]
    exact ⟨c, cs, hcons, opens_of_isDigit hdigit⟩
  · rw [String.toList_append]
    exact ⟨'-', _, rfl, ⟨rfl, by decide, by decide⟩, by decide⟩

theorem exists_write_cons (json : Json) :
    ∃ c cs, json.write = c :: cs ∧ Opens c ∧ (json ≠ .null → c ≠ 'n') := by
  match json with
  | .null => exact ⟨_, _, rfl, ⟨rfl, by decide, by decide⟩, fun h => absurd rfl h⟩
  | .bool true => exact ⟨_, _, rfl, ⟨rfl, by decide, by decide⟩, fun _ => by decide⟩
  | .bool false => exact ⟨_, _, rfl, ⟨rfl, by decide, by decide⟩, fun _ => by decide⟩
  | .number (.integer n) =>
    obtain ⟨c, cs, hcons, hopens, hc⟩ := exists_toList_toString_cons n
    exact ⟨c, cs, hcons, hopens, fun _ => hc⟩
  | .number (.float true _ _) => exact ⟨_, _, rfl, ⟨rfl, by decide, by decide⟩, fun _ => by decide⟩
  | .number (.float false significand exponent) =>
    obtain ⟨c, cs, hcons, hopens, hc⟩ := exists_toList_toString_cons significand
    refine ⟨c, cs ++ 'e' :: (toString exponent).toList, ?_, hopens, fun _ => hc⟩
    rw [write, Number.write]
    exact congrArg (· ++ _) hcons
  | .text _ => exact ⟨_, _, rfl, ⟨rfl, by decide, by decide⟩, fun _ => by decide⟩
  | .list [] => exact ⟨_, _, rfl, ⟨rfl, by decide, by decide⟩, fun _ => by decide⟩
  | .list (_ :: _) => exact ⟨_, _, rfl, ⟨rfl, by decide, by decide⟩, fun _ => by decide⟩
  | .object [] => exact ⟨_, _, rfl, ⟨rfl, by decide, by decide⟩, fun _ => by decide⟩
  | .object (_ :: _) => exact ⟨_, _, rfl, ⟨rfl, by decide, by decide⟩, fun _ => by decide⟩

section Scalars

theorem readsBack_string (s : String) : ReadsBack string (.text s) s := by
  intro rest _
  have htext := (reads_text s.toList rest).map String.ofList
  rw [String.ofList_toList] at htext
  rw [write, quote, List.cons_append, List.cons_append, List.append_assoc]
  exact (reads_peekNonblank rfl _).bind ((reads_advance _ _).bind htext)

theorem readsBack_bool (b : Bool) : ReadsBack .bool (.bool b) b := by
  intro rest _
  cases b with
  | true =>
    refine (reads_peekNonblank rfl _).bind ((reads_advance _ _).bind ?_)
    exact (reads_word ['r', 'u', 'e'] rest).bind (.pure _ _)
  | false =>
    refine (reads_peekNonblank rfl _).bind ((reads_advance _ _).bind ?_)
    exact (reads_word ['a', 'l', 's', 'e'] rest).bind (.pure _ _)

theorem readsBack_int64 (n : Int64) : ReadsBack int64 (.int n.toInt) n := by
  intro rest hrest
  have hlow := n.minValue_le_toInt
  have hhigh : n.toInt ≤ maxWord := Int.le_trans n.toInt_le (by decide)
  have hread := (reads_integer "i64" hlow n.toInt_le hlow hhigh hrest).map Int.toInt64
  have hvalue : n.toInt.toInt64 = n := Int64.ofInt_toInt n
  rw [hvalue] at hread
  exact hread

theorem readsBack_uint16 (n : UInt16) : ReadsBack uint16 (.int n.toNat) n := by
  intro rest hrest
  have hleast : 0 ≤ (n.toNat : Int) := Int.natCast_nonneg n.toNat
  have hmost : (n.toNat : Int) ≤ (UInt16.size - 1 : Nat) :=
    Int.ofNat_le.mpr (Nat.le_of_lt_succ n.toNat_lt)
  have hlow : Int64.minValue.toInt ≤ n.toNat := Int.le_trans (by decide) hleast
  have hhigh : (n.toNat : Int) ≤ maxWord := Int.le_trans hmost (by decide)
  have hread := (reads_integer "u16" hleast hmost hlow hhigh hrest).map fun m => m.toNat.toUInt16
  have hvalue : (n.toNat : Int).toNat.toUInt16 = n := UInt16.ofNat_toNat
  rw [hvalue] at hread
  exact hread

theorem readsBack_nullable {r : Reader α} {toJson : α → Json} {o : Option α}
    (h : ∀ a, ReadsBack r (toJson a) a) (hnull : ∀ a, toJson a ≠ .null) :
    ReadsBack (nullable r) (.ofOption toJson o) o := by
  intro rest hrest
  cases o with
  | none =>
    exact (reads_peekNonblank rfl _).bind
      ((reads_advance 'n' _).bind ((reads_word ['u', 'l', 'l'] rest).bind (.pure _ _)))
  | some a =>
    obtain ⟨c, cs, hcons, hopens, hn⟩ := exists_write_cons (toJson a)
    have hread := (h a rest hrest).map some
    rw [ofOption, hcons, List.cons_append]
    rw [hcons, List.cons_append] at hread
    refine (reads_peekNonblank hopens.1 _).bind ?_
    split
    · next hc => exact absurd (Option.some.inj hc) (hn (hnull a))
    · exact hread

end Scalars

section Members

def commas : List (List Char) → List Char
  | [] => []
  | t :: ts => t ++ ts.flatMap (',' :: ·)

/-- The brackets of lists and objects that are read and not passed over. -/
def Reader.Brackets.AreRead (b : Brackets) : Prop :=
  b = .list ∨ b = .object

/-- A reader takes members one after another; each changes what is under construction. -/
inductive MembersRead (member : σ → Reader σ) : σ → List (List Char) → σ → Prop
  | nil (s : σ) : MembersRead member s [] s
  | cons {s s' s'' : σ} {c : Char} {t : List Char} {ts : List (List Char)} (opens : Opens c)
      (reads : ∀ rest, Ends rest → Reads (member s) (c :: t ++ rest) s' rest)
      (more : MembersRead member s' ts s'') : MembersRead member s ((c :: t) :: ts) s''

variable {b : Brackets} {member : σ → Reader σ} {s s' s'' : σ} {cs mid rest : List Char}

namespace Reader.Brackets.AreRead

theorem isBlank_close (h : b.AreRead) : isBlank b.close = false := by
  obtain rfl | rfl := h <;> rfl

theorem close_ne_comma (h : b.AreRead) : b.close ≠ ',' := by
  obtain rfl | rfl := h <;> decide

theorem ne_close (h : b.AreRead) {c : Char} (hc : Opens c) : c ≠ b.close := by
  obtain rfl | rfl := h
  · exact hc.2.1
  · exact hc.2.2

theorem reads_afterComma (h : b.AreRead) {c : Char} (hc : Opens c) (cs : List Char) :
    Reads b.afterComma (c :: cs) () (c :: cs) := by
  have hanother : b.afterComma = anotherMember b.close := by
    obtain rfl | rfl := h <;> rfl
  rw [hanother]
  refine (reads_peekNonblank hc.1 cs).bind ?_
  dsimp only
  rw [if_neg (h.ne_close hc)]
  exact .pure _ _

theorem ends_commas (h : b.AreRead) (ts : List (List Char)) (rest : List Char) :
    Ends (ts.flatMap (',' :: ·) ++ b.close :: rest) := by
  cases ts with
  | nil =>
    rintro c ⟨⟩
    exact .inr (h.imp (congrArg _) (congrArg _))
  | cons t ts =>
    rintro c ⟨⟩
    exact .inl rfl

end Reader.Brackets.AreRead

theorem reads_moreMembers_close (hb : b.AreRead) (s : σ) (rest : List Char) :
    Reads (moreMembers b member s) (b.close :: rest) s rest := by
  have hdrop : (b.close :: rest).dropWhile isBlank = b.close :: rest :=
    List.dropWhile_cons_of_neg (by simp [hb.isBlank_close])
  refine ⟨⟨s, rest, List.suffix_cons _ _⟩, ?_, rfl, rfl⟩
  rw [moreMembers]
  split
  · next h => cases hdrop.symm.trans h
  · next c cs h =>
    obtain ⟨rfl, rfl⟩ := List.cons.inj (hdrop.symm.trans h)
    exact if_pos rfl

theorem reads_moreMembers_comma (hb : b.AreRead)
    (hmember : Reads (do b.afterComma; member s) cs s' mid)
    (hmore : Reads (moreMembers b member s') mid s'' rest) :
    Reads (moreMembers b member s) (',' :: cs) s'' rest := by
  obtain ⟨t, ht, rfl, rfl⟩ := hmember
  obtain ⟨u, hu, rfl, rfl⟩ := hmore
  refine ⟨⟨u.value, u.rest, (u.suffix.trans t.suffix).trans (List.suffix_cons _ _)⟩, ?_, rfl, rfl⟩
  rw [moreMembers]
  split
  · next h => cases h
  · next c cs h =>
    obtain ⟨rfl, rfl⟩ := List.cons.inj (show ',' :: _ = c :: cs from h)
    dsimp only
    rw [if_neg hb.close_ne_comma.symm, if_pos rfl, ht]
    dsimp only
    rw [hu]

theorem reads_moreMembers (hb : b.AreRead) {ts : List (List Char)} (h : MembersRead member s ts s')
    (rest : List Char) :
    Reads (moreMembers b member s) (ts.flatMap (',' :: ·) ++ b.close :: rest) s' rest := by
  -- The text behind a member must end it, so the induction goes along the texts and not along the reader.
  induction h with
  | nil s => exact reads_moreMembers_close hb s rest
  | @cons _ _ _ _ _ ts opens reads _ ih =>
    have hnext := reads _ (hb.ends_commas ts rest)
    rw [List.flatMap_cons, List.cons_append, List.cons_append, List.append_assoc]
    exact reads_moreMembers_comma hb ((hb.reads_afterComma opens _).bind hnext) ih

theorem reads_members (hb : b.AreRead) {ts : List (List Char)} (h : MembersRead member s ts s')
    (rest : List Char) : Reads (members b member s) (commas ts ++ b.close :: rest) s' rest := by
  cases h with
  | nil =>
    refine (reads_peekNonblank hb.isBlank_close rest).bind ?_
    dsimp only
    rw [if_pos rfl]
    exact (reads_advance _ rest).bind (.pure _ _)
  | @cons _ _ _ _ _ ts opens reads more =>
    have hfirst := reads _ (hb.ends_commas ts rest)
    rw [commas, List.append_assoc]
    rw [List.cons_append] at hfirst ⊢
    refine (reads_peekNonblank opens.1 _).bind ?_
    dsimp only
    rw [if_neg (hb.ne_close opens)]
    exact hfirst.bind (reads_moreMembers hb more rest)

end Members

section Collections

def fieldText (field : String × Json) : List Char :=
  quote field.1 ++ ':' :: field.2.write

theorem writeItems_eq (items : List Json) :
    writeItems items = (items.map write).flatMap (',' :: ·) ++ [']'] := by
  induction items with
  | nil => rfl
  | cons item items ih => rw [writeItems, ih, List.map_cons, List.flatMap_cons, List.append_assoc]

theorem writeFields_eq (fields : List (String × Json)) :
    writeFields fields = (fields.map fieldText).flatMap (',' :: ·) ++ ['\x7d'] := by
  induction fields with
  | nil => rfl
  | cons field fields ih =>
    rw [writeFields, ih, List.map_cons, List.flatMap_cons, fieldText]
    simp only [List.cons_append, List.append_assoc]

theorem write_list (items : List Json) :
    (list items).write = '[' :: (commas (items.map write) ++ [']']) := by
  cases items with
  | nil => rfl
  | cons item items =>
    rw [write, writeItems_eq, List.map_cons, commas, List.append_assoc]
    rfl

theorem write_object (fields : List (String × Json)) :
    (object fields).write = '\x7b' :: (commas (fields.map fieldText) ++ ['\x7d']) := by
  cases fields with
  | nil => rfl
  | cons field fields =>
    rw [write, writeFields_eq, List.map_cons, commas, fieldText]
    simp only [List.cons_append, List.append_assoc]

theorem MembersRead.items {item : Reader α} {toJson : α → Json} (l read : List α)
    (h : ∀ a ∈ l, ReadsBack item (toJson a) a) :
    MembersRead (fun read => do return (← item) :: read) read (l.map fun a => (toJson a).write)
      (l.reverse ++ read) := by
  induction l generalizing read with
  | nil => exact .nil _
  | cons a l ih =>
    obtain ⟨c, cs, hcons, hopens, -⟩ := exists_write_cons (toJson a)
    have hread := (h a List.mem_cons_self).map (· :: read)
    rw [ReadsBack, hcons] at hread
    rw [List.map_cons, hcons, List.reverse_cons, List.append_assoc]
    exact .cons hopens hread (ih (a :: read) fun a' ha' => h a' (List.mem_cons_of_mem a ha'))

theorem readsBack_list {item : Reader α} {toJson : α → Json} {l : List α}
    (h : ∀ a ∈ l, ReadsBack item (toJson a) a) :
    ReadsBack (.list item) (.list (l.map toJson)) l := by
  intro rest _
  have hitems := (reads_members (.inl rfl) (MembersRead.items l [] h) rest).map List.reverse
  rw [List.append_nil, List.reverse_reverse] at hitems
  rw [write_list, List.map_map, List.cons_append, List.append_assoc]
  exact (reads_peekNonblank rfl _).bind ((reads_advance '[' _).bind hitems)

theorem reads_key (name : String) (rest : List Char) :
    Reads key (quote name ++ rest) name rest := by
  have htext := (reads_text name.toList rest).map String.ofList
  rw [String.ofList_toList] at htext
  rw [quote, List.cons_append, List.cons_append, List.append_assoc]
  refine (reads_peekNonblank rfl _).bind ?_
  dsimp only
  rw [if_pos rfl]
  exact (reads_advance _ _).bind htext

theorem reads_colon (rest : List Char) : Reads colon (':' :: rest) () rest := by
  refine (reads_peekNonblank rfl rest).bind ?_
  dsimp only
  rw [if_pos rfl]
  exact reads_advance ':' rest

/-- The next field of a structure, which is known and has not been set yet. -/
theorem MembersRead.field {fields : List (Member σ)} {field : Member σ} {s s' s'' : σ}
    {name : String} {json : Json} {ts : List (List Char)}
    (hfind : fields.find? (·.name == name) = some field) (hset : field.isSet s = false)
    (hread : ReadsBack (field.read s) json s') (hmore : MembersRead (fieldOf fields) s' ts s'') :
    MembersRead (fieldOf fields) s (fieldText (name, json) :: ts) s'' := by
  have hreads :
      ∀ rest, Ends rest → Reads (fieldOf fields s) (fieldText (name, json) ++ rest) s' rest := by
    intro rest hrest
    rw [fieldText, List.append_assoc, List.cons_append]
    refine (reads_key name (':' :: (json.write ++ rest))).bind ?_
    rw [hfind]
    dsimp only
    rw [if_neg (by simp [hset])]
    exact (reads_colon _).bind (hread rest hrest)
  exact .cons ⟨rfl, by decide, by decide⟩ hreads hmore

theorem readsBack_struct {name : String} {fields : List (Member σ)} {empty s : σ}
    {finish : σ → Except String α} {a : α} {written : List (String × Json)}
    (hfields : MembersRead (fieldOf fields) empty (written.map fieldText) s)
    (hfinish : finish s = .ok a) :
    ReadsBack (.struct name fields empty finish) (.object written) a := by
  intro rest _
  have hmembers := reads_members (.inr rfl) hfields rest
  rw [write_object, List.cons_append, List.append_assoc]
  refine (reads_peekNonblank rfl _).bind ((reads_advance '\x7b' _).bind (hmembers.bind ?_))
  dsimp only
  rw [hfinish]
  exact .pure _ _

end Collections

end ContentServer.Json
