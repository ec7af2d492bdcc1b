import ContentServer.Proofs.Assoc
import ContentServer.Store.Memory
import ContentServer.Store.Relational

namespace ContentServer

/-- Rows that spell the rules of a map, one row for each source. -/
structure RedirectRow.Spell (rows : Assoc String RedirectRow) (rules : Assoc String RedirectRule) :
    Prop where
  nodup : rows.keys.Nodup
  spelled : ∀ source, (rows.get? source).map (rule source) = (rules.get? source).map .ok

namespace RedirectRow

variable {source : String} {row : RedirectRow}

theorem source_of_rule {r : RedirectRule} (h : row.rule source = .ok r) : r.source = source := by
  unfold rule at h
  split at h
  · rw [← Except.ok.inj h]
  · cases h

/-- The rule that a row spells, if it spells one and the rule is no wildcard. -/
def plainRule? (source : String) (row : RedirectRow) : Option RedirectRule :=
  (row.rule source).toOption.filter (!·.isWildcard)

theorem plainRule?_of_ok {r : RedirectRule} (h : row.rule source = .ok r) :
    row.plainRule? source = (some r).filter (!·.isWildcard) := by
  rw [plainRule?, h, Except.toOption]

theorem plainRule?_of_isWildcard (hsource : isWildcard source) (row : RedirectRow) :
    row.plainRule? source = none := by
  cases hrule : row.rule source with
  | error e => rw [plainRule?, hrule]; rfl
  | ok r =>
    have hwildcard : r.isWildcard = true := by
      rw [RedirectRule.isWildcard, source_of_rule hrule, hsource]
    rw [plainRule?_of_ok hrule, Option.filter_some, hwildcard]
    rfl

theorem mapM_rule {l : List (String × RedirectRow)} (hok : ∀ e ∈ l, ∃ r, e.2.rule e.1 = .ok r) :
    ∃ rules, l.mapM (fun e => e.2.rule e.1) = .ok rules ∧
      ∀ source, rules.find? (fun r => r.source = source && !r.isWildcard) =
        (l.lookup source).bind (plainRule? source) := by
  induction l with
  | nil => exact ⟨[], rfl, fun _ => rfl⟩
  | cons e l ih =>
    obtain ⟨r, hr⟩ := hok e List.mem_cons_self
    obtain ⟨rules, hrules, hfind⟩ := ih fun e he => hok e (List.mem_cons_of_mem _ he)
    have hsource := source_of_rule hr
    refine ⟨r :: rules, ?_, fun source => ?_⟩
    · rw [List.mapM_cons, hr, hrules]
      rfl
    · rw [List.find?_cons, hfind]
      by_cases hs : source = e.1
      · subst hs
        rw [List.lookup_cons_self, Option.bind_some, plainRule?_of_ok hr, Option.filter_some,
          hsource, decide_eq_true rfl, Bool.true_and]
        cases hwildcard : r.isWildcard with
        | false => rfl
        | true =>
          -- a later row of this source would be a wildcard as well
          have hlater : plainRule? e.1 = fun _ => none := by
            funext row
            rw [RedirectRule.isWildcard, hsource] at hwildcard
            exact plainRule?_of_isWildcard hwildcard row
          rw [hlater, Option.bind_fun_none]
          rfl
      · rw [hsource, Assoc.lookup_cons_of_ne hs, decide_eq_false (Ne.symm hs), Bool.false_and]

theorem exists_rule_of_mapM {l : List (String × RedirectRow)} {rules : List RedirectRule}
    (h : l.mapM (fun e => e.2.rule e.1) = .ok rules) : ∀ e ∈ l, ∃ r, e.2.rule e.1 = .ok r := by
  induction l generalizing rules with
  | nil => exact fun e he => absurd he List.not_mem_nil
  | cons e l ih =>
    rw [List.mapM_cons] at h
    cases hr : e.2.rule e.1 with
    | error fault =>
      rw [hr] at h
      cases h
    | ok r =>
      cases hl : l.mapM (fun e => e.2.rule e.1) with
      | error fault =>
        rw [hr, hl] at h
        cases h
      | ok rules => exact List.forall_mem_cons.mpr ⟨⟨r, hr⟩, ih hl⟩

variable {rows : Assoc String RedirectRow} {rules : Assoc String RedirectRule}

theorem Spell.get?_cases (h : Spell rows rules) (source : String) :
    (rows.get? source = none ∧ rules.get? source = none) ∨
      ∃ row r, rows.get? source = some row ∧ rules.get? source = some r ∧
        row.rule source = .ok r := by
  have hspelled := h.spelled source
  cases hrow : rows.get? source with
  | none =>
    rw [hrow, Option.map_none] at hspelled
    exact .inl ⟨rfl, Option.map_eq_none_iff.mp hspelled.symm⟩
  | some row =>
    rw [hrow, Option.map_some] at hspelled
    obtain ⟨r, hrule, hr⟩ := Option.map_eq_some_iff.mp hspelled.symm
    exact .inr ⟨row, r, rfl, hrule, hr.symm⟩

theorem Spell.exists_rule (h : Spell rows rules) {e : String × RedirectRow} (he : e ∈ rows.entries) :
    ∃ r, e.2.rule e.1 = .ok r := by
  have hget : rows.get? e.1 = some e.2 := Assoc.lookup_of_mem h.nodup he
  obtain ⟨hnone, -⟩ | ⟨row, r, hrow, -, hr⟩ := h.get?_cases e.1
  · rw [hget] at hnone
    cases hnone
  · obtain rfl := Option.some.inj (hget.symm.trans hrow)
    exact ⟨r, hr⟩

theorem Spell.plainRule?_get? (h : Spell rows rules) (source : String) :
    (rows.get? source).bind (plainRule? source) = (rules.get? source).filter (!·.isWildcard) := by
  obtain ⟨hrow, hrule⟩ | ⟨row, r, hrow, hrule, hr⟩ := h.get?_cases source
  · rw [hrow, hrule]
    rfl
  · rw [hrow, hrule, Option.bind_some, plainRule?_of_ok hr]

end RedirectRow

theorem findSome?_eq_find?_filterMap {α β : Type} {f g : α → Option β} {p : β → Bool} {l : List α}
    (h : ∀ a ∈ l, g a = (f a).filter p) : l.findSome? g = (l.filterMap f).find? p := by
  induction l with
  | nil => rfl
  | cons a l ih =>
    have hrest := ih fun b hb => h b (List.mem_cons_of_mem _ hb)
    rw [List.findSome?_cons, h a List.mem_cons_self, hrest, List.filterMap_cons]
    cases f a with
    | none => rfl
    | some b =>
      rw [Option.filter_some]
      dsimp only
      rw [List.find?_cons]
      cases p b <;> rfl

namespace RelationalStore

variable {s : RelationalStore} {rows : Assoc String RedirectRow} {rules : Assoc String RedirectRule}

theorem findRedirect_spell (hrows : s.redirects = some rows) (h : RedirectRow.Spell rows rules)
    (sources : List String) :
    s.findRedirect sources = .ok ((sources.filterMap rules.get?).find? (!·.isWildcard)) := by
  unfold findRedirect
  split
  · next hnone =>
    rw [List.isEmpty_iff.mp hnone]
    rfl
  · have hok : ∀ e ∈ rows.entries.filter (fun e => decide (e.1 ∈ sources)),
        ∃ r, e.2.rule e.1 = .ok r :=
      fun e he => h.exists_rule (List.mem_filter.mp he).1
    obtain ⟨found, hfound, hfind⟩ := RedirectRow.mapM_rule hok
    have hread : ∀ source ∈ sources,
        found.find? (fun r => r.source = source && !r.isWildcard) =
          (rules.get? source).filter (!·.isWildcard) := by
      intro source hsource
      rw [hfind, Assoc.lookup_filter_mem hsource]
      exact h.plainRule?_get? source
    rw [hrows]
    dsimp only
    rw [hfound]
    exact congrArg Except.ok (findSome?_eq_find?_filterMap hread)

theorem findWildcardRedirect_eq (hrows : s.redirects = some rows) (source : String) :
    s.findWildcardRedirect source =
      match rows.get? source with
      | none => .ok none
      | some row => (row.rule source).map some := by
  cases hrow : rows.get? source <;> simp only [findWildcardRedirect, hrows, hrow]

theorem findWildcardRedirect_spell (hrows : s.redirects = some rows)
    (h : RedirectRow.Spell rows rules) (source : String) :
    s.findWildcardRedirect source = .ok (rules.get? source) := by
  rw [findWildcardRedirect_eq hrows]
  obtain ⟨hrow, hrule⟩ | ⟨row, r, hrow, hrule, hr⟩ := h.get?_cases source
  · rw [hrow, hrule]
  · rw [hrow, hrule]
    dsimp only
    rw [hr]
    rfl

end RelationalStore

end ContentServer
