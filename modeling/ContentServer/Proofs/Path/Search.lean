import ContentServer.Proofs.Path.Probe

namespace ContentServer

namespace Decomposition

variable (unpublished : Bool)

def reply (found : Except StoreError (Option Record)) (d : Decomposition) : Lookup.Reply :=
  ⟨.record d.key unpublished, found⟩

def resolved (d : Decomposition) (record : Record) : Resolved :=
  ⟨record, d.captured⟩

/-- Asks for the records under keys one after another, until there is one. -/
def search : List Decomposition → Lookup (Option Resolved)
  | [] => return none
  | d :: ds => do
    match ← Lookup.query (.record d.key unpublished) with
    | some record => return some (d.resolved record)
    | none => search ds

theorem search_eq (ds : List Decomposition) :
    search unpublished ds = (Probe.record unpublished).search ds := by
  induction ds with
  | nil => rfl
  | cons d ds ih =>
    rw [search, Probe.search, ih]
    exact bind_congr fun found => by cases found <;> rfl

variable {σ : Type} (answer : (q : Query) → σ → Except StoreError q.Answer × σ)

theorem search_cases (ds : List Decomposition) (s : σ) :
    (((search unpublished ds).replies answer s = ds.map (reply unpublished (.ok none))) ∧
      ((search unpublished ds).run answer s).1 = .ok none) ∨
    ∃ missed d later found, ds = missed ++ d :: later ∧ found ≠ .ok none ∧
      (search unpublished ds).replies answer s =
        missed.map (reply unpublished (.ok none)) ++ [d.reply unpublished found] ∧
      ((search unpublished ds).run answer s).1 = found.map (Option.map d.resolved) := by
  have hread : ∀ (d : Decomposition) (found : Option Record),
      (((Probe.record unpublished).read d found).getD none) = found.map d.resolved := by
    intro d found
    cases found <;> rfl
  have hcases := (Probe.record unpublished).search_cases answer ds s
  rw [← search_eq] at hcases
  refine hcases.imp_right fun ⟨missed, d, later, found, hds, hfound, hreplies, hrun⟩ => ?_
  refine ⟨missed, d, later, found, hds, hfound, hreplies, ?_⟩
  exact hrun.trans (congrArg (Except.map · found) (funext (hread d)))

theorem search_asks (ds : List Decomposition) :
    (search unpublished ds).Asks fun q => ∃ key, q = .record key unpublished := by
  induction ds with
  | nil => exact trivial
  | cons d ds ih =>
    refine Lookup.Asks.bind (Lookup.asks_query ⟨d.key, rfl⟩) fun found => ?_
    cases found with
    | none => exact ih
    | some record => exact trivial

variable {answer}

theorem search_of_no_records (h : Lookup.Steady answer) {s : σ}
    (hnone : ∀ key, (answer (.record key unpublished) s).1 = .ok none) (ds : List Decomposition) :
    ((search unpublished ds).run answer s).1 = .ok none := by
  rw [search_eq]
  exact ((Probe.record unpublished).search_eq_otherwise_iff h ds s).mpr fun d _ => hnone d.key

end Decomposition

namespace Resolver

open Decomposition

theorem probe_eq_search (unpublished : Bool) (kept captured : List String) :
    probe unpublished kept.reverse captured =
      search unpublished (wildcards (kept ++ captured) kept.length) := by
  induction kept using List.reverseRecOn generalizing captured with
  | nil => rfl
  | append_singleton kept last ih =>
    rw [List.reverse_append, List.reverse_singleton, List.singleton_append, probe,
      List.reverse_reverse, List.length_append, List.length_singleton, wildcards_succ,
      List.append_assoc, List.singleton_append, below_length, search, wildcardKey_eq, ih]
    exact bind_congr fun found => by cases found <;> rfl

theorem resolve_eq_search (path : RequestPath) (unpublished : Bool) :
    resolve path unpublished = search unpublished path.decompositions := by
  have hprobe := probe_eq_search unpublished path.segments []
  rw [List.append_nil] at hprobe
  rw [resolve, RequestPath.decompositions, search, hprobe]
  exact bind_congr fun found => by cases found <;> rfl

theorem resolve_asks (path : RequestPath) (unpublished : Bool) :
    (resolve path unpublished).Asks fun q => ∃ key, q = .record key unpublished := by
  rw [resolve_eq_search]
  exact search_asks unpublished path.decompositions

/-- A path is resolved by the first of its keys that has a record, and the record gets the last
segments that the key does not keep. One query is asked for each key up to that one, in order, and
no more. The keys are the cuts of the path's key, of which each with its star filled in makes up the
whole. -/
theorem resolve_first_hit {σ : Type} (answer : (q : Query) → σ → Except StoreError q.Answer × σ)
    (s : σ) (extension raw : String) (unpublished : Bool) :
    let path := RequestPath.parse extension raw
    let replies := (resolve path unpublished).replies answer s
    let result := ((resolve path unpublished).run answer s).1
    ((replies = path.decompositions.map (reply unpublished (.ok none)) ∧ result = .ok none) ∨
      ∃ missed d later found, path.decompositions = missed ++ d :: later ∧ found ≠ .ok none ∧
        replies = missed.map (reply unpublished (.ok none)) ++ [d.reply unpublished found] ∧
        result = found.map (Option.map d.resolved)) ∧
    replies.length ≤ path.segments.length + 1 ∧
    (path.segments = [] → path.decompositions = [⟨"/", []⟩]) ∧
    (path.segments ≠ [] → path.decompositions = ⟨path.key, []⟩ :: cuts path.key.toList []) ∧
    ∀ k d, path.decompositions[k]? = some d →
      d.captured = path.segments.drop (path.segments.length - k) ∧
        (d.captured ≠ [] → isWildcard d.key ∧ d.filled = path.key) := by
  intro path replies result
  have hcases := search_cases unpublished answer path.decompositions s
  rw [← resolve_eq_search] at hcases
  refine ⟨hcases, ?_, ?_, path.decompositions_eq_cuts (RequestPath.areSegments_parse extension raw),
    ?_⟩
  · rw [← path.length_decompositions]
    obtain ⟨hreplies, -⟩ | ⟨missed, d, later, found, hds, -, hreplies, -⟩ := hcases
    · have hlength := congrArg List.length hreplies
      rw [List.length_map] at hlength
      exact Nat.le_of_eq hlength
    · have hlength := congrArg List.length hreplies
      rw [List.length_append, List.length_map, List.length_singleton] at hlength
      have hbound : missed.length + 1 ≤ path.decompositions.length := by
        rw [hds, List.length_append, List.length_cons]
        omega
      exact Nat.le_trans (Nat.le_of_eq hlength) hbound
  · intro hroot
    rw [RequestPath.decompositions, RequestPath.key, hroot]
    rfl
  · intro k d hd
    exact ⟨RequestPath.captured_of_getElem? hd, RequestPath.filled_eq_key (List.mem_of_getElem? hd)⟩

end Resolver

end ContentServer
