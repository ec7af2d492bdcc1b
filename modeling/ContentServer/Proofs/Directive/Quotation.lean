import ContentServer.Directive.Basic
import ContentServer.Proofs.Text.Split

namespace ContentServer.Directive

def spaced (texts : List (List Char)) : List Char :=
  [' '].intercalate texts

def unquoted (text : List Char) : List Char :=
  text.filter (· ≠ '"')

/-- The argument that a group of tokens makes up: a token that opens no quotation stands for itself,
and a quotation for what is between its quotes. The closing one may be missing. -/
inductive Makes : List (List Char) → List Char → Prop where
  | bare {token : List Char} (h : token.head? ≠ some '"') : Makes [token] token
  | closed {group : List (List Char)} {text : List Char} (h : spaced group = '"' :: text ++ ['"']) :
    Makes group text
  | unclosed {group : List (List Char)} {text : List Char} (h : spaced group = '"' :: text) :
    Makes group text

theorem spaced_singleton (text : List Char) : spaced [text] = text :=
  List.intercalate_singleton ..

theorem spaced_concat {texts : List (List Char)} (h : texts ≠ []) (text : List Char) :
    spaced (texts ++ [text]) = spaced texts ++ ' ' :: text := by
  have hwhole := Text.cons_intercalate ' ' (List.append_ne_nil_of_left_ne_nil h [text])
  rw [List.flatMap_append, ← Text.cons_intercalate ' ' h] at hwhole
  simpa [spaced] using hwhole

theorem eq_dropLast_concat {text : List Char} {c : Char} (h : text.getLast? = some c) :
    text = text.dropLast ++ [c] := by
  obtain ⟨stem, rfl⟩ := List.getLast?_eq_some_iff.mp h
  rw [List.dropLast_concat]

/-- Outside a quotation, the tokens fall into groups; inside one, they do so behind those that it
has. -/
theorem exists_groups (tokens : List (List Char)) :
    (∃ groups, groups.flatten = tokens ∧ List.Forall₂ Makes groups (joinQuoted none tokens)) ∧
      ∀ text opened, opened ≠ [] → spaced opened = '"' :: text →
        ∃ more groups, more ++ groups.flatten = tokens ∧
          List.Forall₂ Makes ((opened ++ more) :: groups) (joinQuoted (some text) tokens) := by
  induction tokens with
  | nil =>
    refine ⟨⟨[], rfl, .nil⟩, fun text opened _ htext => ⟨[], [], rfl, ?_⟩⟩
    rw [List.append_nil]
    exact .cons (.unclosed htext) .nil
  | cons token tokens ih =>
    obtain ⟨⟨groups, hgroups, hmakes⟩, hopen⟩ := ih
    refine ⟨?_, fun text opened hne htext => ?_⟩
    · by_cases hquote : token.head? = some '"'
      · obtain ⟨rest, rfl⟩ := List.head?_eq_some_iff.mp hquote
        by_cases hlast : rest.getLast? = some '"'
        · refine ⟨['"' :: rest] :: groups, by simp [hgroups], ?_⟩
          rw [joinQuoted, if_pos hlast]
          refine .cons (.closed ?_) hmakes
          rw [spaced_singleton, List.cons_append, ← eq_dropLast_concat hlast]
        · obtain ⟨more, groups, hflat, hmakes⟩ :=
            hopen rest ['"' :: rest] (by simp) (spaced_singleton _)
          refine ⟨(['"' :: rest] ++ more) :: groups, by simp [hflat], ?_⟩
          rw [joinQuoted, if_neg hlast]
          exact hmakes
      · refine ⟨[token] :: groups, by simp [hgroups], ?_⟩
        rw [joinQuoted]
        · exact .cons (.bare hquote) hmakes
        · rintro rest rfl
          exact hquote rfl
    · by_cases hlast : token.getLast? = some '"'
      · refine ⟨[token], groups, by simp [hgroups], ?_⟩
        rw [joinQuoted, if_pos hlast]
        refine .cons (.closed ?_) hmakes
        rw [spaced_concat hne, htext, eq_dropLast_concat hlast]
        simp
      · have hmore : spaced (opened ++ [token]) = '"' :: (text ++ ' ' :: token) := by
          rw [spaced_concat hne, htext, List.cons_append]
        obtain ⟨more, groups, hflat, hmakes⟩ := hopen _ _ (by simp) hmore
        refine ⟨token :: more, groups, by simp [hflat], ?_⟩
        rw [joinQuoted, if_neg hlast]
        simpa using hmakes

namespace Makes

variable {group : List (List Char)} {text : List Char}

theorem ne_nil (h : Makes group text) : group ≠ [] := by
  rintro rfl
  cases h with
  | closed h => cases h
  | unclosed h => cases h

theorem unquoted_eq (h : Makes group text) : unquoted text = unquoted (spaced group) := by
  cases h with
  | bare => rw [spaced_singleton]
  | closed h => simp [h, unquoted]
  | unclosed h => simp [h, unquoted]

end Makes

theorem cons_unquoted_spaced {texts : List (List Char)} (h : texts ≠ []) :
    ' ' :: unquoted (spaced texts) = texts.flatMap fun text => ' ' :: unquoted text := by
  have hwhole := congrArg unquoted (Text.cons_intercalate ' ' h)
  simpa [unquoted, spaced, List.filter_flatMap, List.filter_cons] using hwhole

theorem unquoted_spaced_eq {groups : List (List (List Char))} {texts : List (List Char)}
    (h : List.Forall₂ Makes groups texts) :
    unquoted (spaced texts) = unquoted (spaced groups.flatten) := by
  have hwords : texts.flatMap (fun text => ' ' :: unquoted text) =
      groups.flatten.flatMap fun text => ' ' :: unquoted text := by
    induction h with
    | nil => rfl
    | cons hmakes _ ih =>
      rw [List.flatten_cons, List.flatMap_append, List.flatMap_cons, ih,
        ← cons_unquoted_spaced hmakes.ne_nil, hmakes.unquoted_eq]
  cases h with
  | nil => rfl
  | @cons group text groups texts hmakes _ =>
    have hne : (group :: groups).flatten ≠ [] := by simp [hmakes.ne_nil]
    rw [← cons_unquoted_spaced (List.cons_ne_nil text texts), ← cons_unquoted_spaced hne] at hwords
    exact (List.cons.inj hwords).2

/-- But for quotes, the arguments hold what the tokens hold. They are made of the tokens group by
group, and a token that is in no quotation is an argument as it is. -/
theorem joinQuoted_keeps (tokens : List (List Char)) :
    unquoted (spaced (joinQuoted none tokens)) = unquoted (spaced tokens) ∧
      ∃ groups, groups.flatten = tokens ∧ List.Forall₂ Makes groups (joinQuoted none tokens) := by
  obtain ⟨groups, hgroups, hmakes⟩ := (exists_groups tokens).1
  refine ⟨?_, groups, hgroups, hmakes⟩
  rw [unquoted_spaced_eq hmakes, hgroups]

end ContentServer.Directive
