import ContentServer.Proofs.Html.Tags

namespace ContentServer.Html

/-- A span from a `<` to the next `>`, or a character outside of all spans. -/
inductive Token where
  | span (inner : List Char)
  | char (c : Char)
  deriving DecidableEq

namespace Token

def text : Token → List Char
  | span inner => tag inner
  | char c => [c]

def char? : Token → Option Char
  | span _ => none
  | char c => some c

end Token

/-- How a text is read from the left: each `<` that some `>` follows opens a span, which ends at the
first such `>`, whatever stands between. -/
inductive IsReading : List Char → List Token → Prop
  | nil : IsReading [] []
  | span {inner text : List Char} {tokens : List Token} (hinner : '>' ∉ inner)
      (hrest : IsReading text tokens) : IsReading (tag inner ++ text) (.span inner :: tokens)
  | char {c : Char} {text : List Char} {tokens : List Token} (hopen : c = '<' → '>' ∉ text)
      (hrest : IsReading text tokens) : IsReading (c :: text) (.char c :: tokens)

def scan (text : List Char) : List Token :=
  match text with
  | [] => []
  | c :: rest =>
    if c = '<' then
      match _h : Text.cutFirst? '>' rest with
      | some (inner, after) => .span inner :: scan after
      | none => .char c :: scan rest
    else .char c :: scan rest
termination_by text.length
decreasing_by
  · have := Text.length_cutFirst?_lt _h
    simp only [List.length_cons]
    omega
  · simp
  · simp

variable {text inner after : List Char} {tokens : List Token}

theorem scan_of_cut (h : Text.cutFirst? '>' text = some (inner, after)) :
    scan ('<' :: text) = .span inner :: scan after := by
  rw [scan, if_pos rfl]
  split
  · next found rest hcut =>
    obtain ⟨rfl, rfl⟩ := Prod.mk.inj (Option.some.inj (hcut.symm.trans h))
    rfl
  · next hcut => cases hcut.symm.trans h

theorem scan_of_no_cut (h : Text.cutFirst? '>' text = none) :
    scan ('<' :: text) = .char '<' :: scan text := by
  rw [scan, if_pos rfl]
  split
  · next hcut => cases hcut.symm.trans h
  · rfl

theorem scan_cons_of_ne {c : Char} (h : c ≠ '<') : scan (c :: text) = .char c :: scan text := by
  rw [scan, if_neg h]

theorem isReading_scan (text : List Char) : IsReading text (scan text) := by
  fun_induction scan text with
  | case1 => exact .nil
  | case2 rest inner after hcut ih =>
    obtain ⟨hinner, rfl⟩ := Text.cutFirst?_eq_some_iff.mp hcut
    have hspan := IsReading.span hinner ih
    rwa [tag, List.append_assoc] at hspan
  | case3 rest hcut ih => exact .char (fun _ => Text.cutFirst?_eq_none_iff.mp hcut) ih
  | case4 c rest hc ih => exact .char (absurd · hc) ih

theorem IsReading.scan_eq (h : IsReading text tokens) : scan text = tokens := by
  induction h with
  | nil => rw [scan]
  | span hinner _ ih =>
    rw [tag, List.append_assoc, List.cons_append, List.singleton_append,
      scan_of_cut (Text.cutFirst?_append_cons hinner _), ih]
  | @char c text tokens hopen _ ih =>
    by_cases hc : c = '<'
    · subst hc
      rw [scan_of_no_cut (Text.cutFirst?_eq_none_iff.mpr (hopen rfl)), ih]
    · rw [scan_cons_of_ne hc, ih]

theorem stripTags_eq (text : List Char) : stripTags text = (scan text).filterMap Token.char? := by
  fun_induction stripTags text with
  | case1 =>
    rw [scan]
    rfl
  | case2 rest inner after hcut ih =>
    rw [scan_of_cut hcut, ih]
    rfl
  | case3 rest hcut ih =>
    rw [scan_of_no_cut hcut, ih]
    rfl
  | case4 c rest hc ih =>
    rw [scan_cons_of_ne hc, ih]
    rfl

theorem IsReading.sublist (h : IsReading text tokens) :
    (tokens.filterMap Token.char?).Sublist text := by
  induction h with
  | nil => exact .slnil
  | span _ _ ih => exact ih.trans (List.sublist_append_right _ _)
  | char _ _ ih => exact ih.cons_cons _

/-- A `<` that is left has no `>` after it: a `>` of the text would have ended a span there. -/
theorem IsReading.not_pair (h : IsReading text tokens) :
    ¬ ['<', '>'].Sublist (tokens.filterMap Token.char?) := by
  induction h with
  | nil => exact nofun
  | span _ _ ih => exact ih
  | @char c text tokens hopen hrest ih =>
    intro hpair
    obtain hpair | ⟨rest, hrest', hpair⟩ := List.sublist_cons_iff.mp hpair
    · exact ih hpair
    · obtain ⟨rfl, rfl⟩ := List.cons.inj hrest'
      exact hopen rfl (hrest.sublist.subset (hpair.subset List.mem_cons_self))

theorem isReading_chars (h : ¬ ['<', '>'].Sublist text) : IsReading text (text.map .char) := by
  induction text with
  | nil => exact .nil
  | cons c text ih =>
    refine .char (fun hc hclose => h ?_) (ih fun hpair => h (hpair.cons c))
    rw [hc]
    exact (List.singleton_sublist.mpr hclose).cons_cons '<'

theorem stripTags_eq_self (h : ¬ ['<', '>'].Sublist text) : stripTags text = text := by
  rw [stripTags_eq, (isReading_chars h).scan_eq, List.filterMap_map]
  exact List.filterMap_some

/-- What stands between each span of that name and the next closing one. -/
def elements (name : List Char) (tokens : List Token) : List (List Token) :=
  (tokens.splitOn (.span name)).tail.map (·.takeWhile (· ≠ .span ('/' :: name)))

def element (name : List Char) (content : List Token) : List Token :=
  .span name :: (content ++ [.span ('/' :: name)])

variable {name : List Char} {before content : List Token}

theorem elements_append_of_notMem (h : .span name ∉ before) (tokens : List Token) :
    elements name (before ++ tokens) = elements name tokens := by
  obtain ⟨first, others, hsplit⟩ :=
    List.exists_cons_of_ne_nil (List.splitOn_ne_nil (.span name) tokens)
  rw [elements, Text.splitOn_append_of_notMem h hsplit, elements, hsplit, List.tail_cons,
    List.tail_cons]

theorem elements_of_notMem (h : .span name ∉ before) : elements name before = [] := by
  rw [elements, List.splitOn_eq_singleton h]
  rfl

theorem elements_element_append (hopen : .span name ∉ content)
    (hclose : .span ('/' :: name) ∉ content) (tokens : List Token) :
    elements name (element name content ++ tokens) = content :: elements name tokens := by
  obtain ⟨first, others, hsplit⟩ :=
    List.exists_cons_of_ne_nil (List.splitOn_ne_nil (.span name) tokens)
  have hinner : .span name ∉ content ++ [.span ('/' :: name)] := by
    simpa using hopen
  have hcut :
      (content ++ [Token.span ('/' :: name)] ++ first).takeWhile (· ≠ .span ('/' :: name)) =
        content := by
    rw [List.append_assoc, List.takeWhile_append_of_pos, List.singleton_append,
      List.takeWhile_cons_of_neg, List.append_nil]
    · simp
    · intro token htoken
      exact decide_eq_true fun heq => hclose (heq ▸ htoken)
  rw [elements, element, List.cons_append, Text.splitOn_cons_self,
    Text.splitOn_append_of_notMem hinner hsplit, List.tail_cons, List.map_cons, hcut, elements,
    hsplit, List.tail_cons]

theorem elements_flatMap_append {α : Type} {f : α → List Token} {gap : List Token} {xs : List α}
    (hopen : ∀ x ∈ xs, .span name ∉ f x) (hclose : ∀ x ∈ xs, .span ('/' :: name) ∉ f x)
    (hgap : .span name ∉ gap) (tokens : List Token) :
    elements name (xs.flatMap (fun x => element name (f x) ++ gap) ++ tokens) =
      xs.map f ++ elements name tokens := by
  induction xs with
  | nil => rfl
  | cons x xs ih =>
    obtain ⟨hx, hopen⟩ := List.forall_mem_cons.mp hopen
    obtain ⟨hx', hclose⟩ := List.forall_mem_cons.mp hclose
    rw [List.flatMap_cons, List.append_assoc, List.append_assoc, elements_element_append hx hx',
      elements_append_of_notMem hgap, ih hopen hclose]
    rfl

theorem elements_flatMap {α : Type} {f : α → List Token} {xs : List α}
    (hopen : ∀ x ∈ xs, .span name ∉ f x) (hclose : ∀ x ∈ xs, .span ('/' :: name) ∉ f x)
    (tokens : List Token) :
    elements name (xs.flatMap (fun x => element name (f x)) ++ tokens) =
      xs.map f ++ elements name tokens := by
  have hgap := elements_flatMap_append hopen hclose List.not_mem_nil tokens
  simpa only [List.append_nil] using hgap

/-- Can the token be read back, whatever follows it? -/
def Token.IsSafe : Token → Prop
  | span inner => '>' ∉ inner
  | char c => c ≠ '<'

instance : DecidablePred Token.IsSafe
  | .span inner => inferInstanceAs (Decidable ('>' ∉ inner))
  | .char c => inferInstanceAs (Decidable (c ≠ '<'))

/-- A text that was put together from safe tokens. -/
structure IsWritten (text : List Char) (tokens : List Token) : Prop where
  whole : tokens.flatMap Token.text = text
  safe : ∀ token ∈ tokens, token.IsSafe

namespace IsWritten

variable {more : List Char} {others : List Token}

theorem isReading (h : IsWritten text tokens) : IsReading text tokens := by
  obtain ⟨rfl, hsafe⟩ := h
  induction tokens with
  | nil => exact .nil
  | cons token tokens ih =>
    obtain ⟨htoken, hrest⟩ := List.forall_mem_cons.mp hsafe
    cases token with
    | span inner => exact .span htoken (ih hrest)
    | char c => exact .char (absurd · htoken) (ih hrest)

theorem append (h : IsWritten text tokens) (hmore : IsWritten more others) :
    IsWritten (text ++ more) (tokens ++ others) := by
  refine ⟨?_, List.forall_mem_append.mpr ⟨h.safe, hmore.safe⟩⟩
  rw [List.flatMap_append, h.whole, hmore.whole]

theorem flatMap {α : Type} {f : α → List Char} {g : α → List Token} (h : ∀ x, IsWritten (f x) (g x))
    (xs : List α) : IsWritten (xs.flatMap f) (xs.flatMap g) := by
  induction xs with
  | nil => exact ⟨rfl, nofun⟩
  | cons x xs ih => exact (h x).append ih

theorem chars (h : '<' ∉ text) : IsWritten text (text.map .char) := by
  refine ⟨?_, List.forall_mem_map.mpr fun c hc heq => h (heq ▸ hc)⟩
  rw [List.flatMap_map]
  exact List.flatMap_singleton' text

theorem span (h : '>' ∉ inner) : IsWritten (tag inner) [.span inner] :=
  ⟨List.append_nil _, List.forall_mem_singleton.mpr h⟩

theorem element (h : IsWritten text tokens) (hname : '>' ∉ name) :
    IsWritten (tag name ++ text ++ tag ('/' :: name)) (element name tokens) := by
  have hclose : '>' ∉ '/' :: name := by simp [hname]
  exact ((span hname).append h).append (span hclose)

end IsWritten

end ContentServer.Html
