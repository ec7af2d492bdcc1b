import ContentServer.Proofs.Path.Search
import ContentServer.Proofs.Store.Rules
import ContentServer.Resolver

namespace ContentServer

def Probe.rule (fallback : Disposition) : Probe RedirectDecision where
  query d := .wildcardRedirect d.key
  miss _ := none
  read d found := found.map (.rule · d.captured)
  otherwise := .notFound fallback
  read_eq_none _ _ := Option.map_eq_none_iff
  read_ne_otherwise _ found := by cases found <;> simp

def Decomposition.ruleReply (found : Except StoreError (Option RedirectRule)) (d : Decomposition) :
    Lookup.Reply :=
  ⟨.wildcardRedirect d.key, found⟩

namespace RedirectDecision

open Decomposition

def ofFound (fallback : Disposition) (captured : List String) :
    Option RedirectRule → RedirectDecision
  | some found => rule found captured
  | none => notFound fallback

theorem probe_eq_search (fallback : Disposition) (maxProbes : Nat) (kept captured : List String) :
    probe fallback maxProbes kept.reverse captured =
      (Probe.rule fallback).search ((wildcards (kept ++ captured) kept.length).take maxProbes) := by
  induction kept using List.reverseRecOn generalizing maxProbes captured with
  | nil => cases maxProbes <;> rfl
  | append_singleton kept last ih =>
    rw [List.reverse_append, List.reverse_singleton, List.singleton_append]
    cases maxProbes with
    | zero => rfl
    | succ maxProbes =>
      rw [probe, List.reverse_reverse, List.length_append, List.length_singleton, wildcards_succ,
        List.append_assoc, List.singleton_append, below_length, List.take_succ_cons, Probe.search,
        wildcardKey_eq, ih]
      exact bind_congr fun found => by cases found <;> rfl

variable (path : RequestPath) (extension : String) (fallback : Disposition) (maxProbes : Nat)

theorem resolve_eq_search :
    resolve path extension fallback maxProbes =
      Lookup.query (.redirect (path.redirectSources extension)) >>= fun found =>
        match found with
        | some found => pure (rule found [])
        | none => (Probe.rule fallback).search (path.decompositions.tail.take maxProbes) := by
  have hprobe := probe_eq_search fallback maxProbes path.segments []
  rw [List.append_nil] at hprobe
  rw [resolve, hprobe]
  rfl

section Cases

variable {σ : Type} (answer : (q : Query) → σ → Except StoreError q.Answer × σ) (s : σ)

/-- If the exact sources do not settle it, wildcard keys are asked for until one is no miss. -/
theorem resolve_cases :
    let sources := Query.redirect (path.redirectSources extension)
    let probed := path.decompositions.tail.take maxProbes
    let told := (answer sources s).1
    let replies := (resolve path extension fallback maxProbes).replies answer s
    let result := ((resolve path extension fallback maxProbes).run answer s).1
    (told ≠ .ok none → replies = [⟨sources, told⟩] ∧ result = told.map (ofFound fallback [])) ∧
    (told = .ok none →
      (replies = ⟨sources, told⟩ :: probed.map (ruleReply (.ok none)) ∧ result = .ok (.notFound fallback)) ∨
      ∃ missed d later found, probed = missed ++ d :: later ∧ found ≠ .ok none ∧
        replies = ⟨sources, told⟩ :: (missed.map (ruleReply (.ok none)) ++ [d.ruleReply found]) ∧
        result = found.map (ofFound fallback d.captured)) := by
  intro sources probed
  rw [resolve_eq_search, Lookup.replies_query_bind, Lookup.run_query_bind]
  obtain ⟨e | found, t⟩ := answer sources s
  · exact ⟨fun _ => ⟨rfl, rfl⟩, nofun⟩
  · cases found with
    | some found => exact ⟨fun _ => ⟨rfl, rfl⟩, nofun⟩
    | none =>
      refine ⟨fun hfound => absurd rfl hfound, fun _ => ?_⟩
      obtain ⟨hreplies, hrun⟩ | ⟨missed, d, later, found, hprobed, hfound, hreplies, hrun⟩ :=
        (Probe.rule fallback).search_cases answer probed t
      · exact .inl ⟨congrArg (_ :: ·) hreplies, hrun⟩
      · have hread : ∀ found : Option RedirectRule,
            ((Probe.rule fallback).read d found).getD (.notFound fallback) =
              ofFound fallback d.captured found := by
          intro found
          cases found <;> rfl
        refine .inr ⟨missed, d, later, found, hprobed, hfound, congrArg (_ :: ·) hreplies, ?_⟩
        exact hrun.trans (congrArg (Except.map · found) (funext hread))

theorem resolve_eq_notFound_iff {answer : (q : Query) → σ → Except StoreError q.Answer × σ}
    (h : Lookup.Steady answer) :
    ((resolve path extension fallback maxProbes).run answer s).1 = .ok (.notFound fallback) ↔
      (answer (.redirect (path.redirectSources extension)) s).1 = .ok none ∧
        ∀ d ∈ path.decompositions.tail.take maxProbes,
          (answer (.wildcardRedirect d.key) s).1 = .ok none := by
  have hsteady := fun q => h (.redirect (path.redirectSources extension)) q s
  rw [resolve_eq_search, Lookup.run_query_bind]
  generalize answer (.redirect (path.redirectSources extension)) s = told at hsteady
  obtain ⟨e | found, t⟩ := told
  · exact iff_of_false nofun nofun
  · cases found with
    | some found => exact iff_of_false nofun nofun
    | none =>
      refine ((Probe.rule fallback).search_eq_otherwise_iff h _ t).trans ?_
      simp only [Probe.rule, hsteady, true_and]

end Cases

end RedirectDecision

namespace Resolver

open Decomposition

variable (unpublished : Bool)

theorem replies_resolve_of_no_records {σ : Type}
    {missing : (q : Query) → σ → Except StoreError q.Answer × σ} (h : Lookup.Steady missing) {s : σ}
    (hnone : ∀ key, (missing (.record key unpublished) s).1 = .ok none) (path : RequestPath) :
    (resolve path unpublished).replies missing s =
      path.decompositions.map (reply unpublished (.ok none)) := by
  have hrun := search_of_no_records unpublished h hnone path.decompositions
  rw [search_eq] at hrun
  rw [resolve_eq_search, search_eq]
  exact (Probe.record unpublished).replies_of_eq_otherwise hrun

/-- A store that has no record under the first keys it is asked for, as many as `misses` says, and
`record` under all others. -/
def lateRecord (record : Record) : (q : Query) → (misses : Nat) → Except StoreError q.Answer × Nat
  | .record _ _, 0 => (.ok (some record), 0)
  | .record _ _, misses + 1 => (.ok none, misses)
  | .redirect _, misses => (.ok none, misses)
  | .wildcardRedirect _, misses => (.ok none, misses)
  | .ancestors _, misses => (.ok [], misses)

theorem search_lateRecord {ds : List Decomposition} {i : Nat} {d : Decomposition}
    (hd : ds[i]? = some d) (record : Record) :
    (search unpublished ds).replies (lateRecord record) i =
        (ds.take i).map (reply unpublished (.ok none)) ++ [d.reply unpublished (.ok (some record))] ∧
      ((search unpublished ds).run (lateRecord record) i).1 = .ok (some (d.resolved record)) := by
  induction ds generalizing i with
  | nil => cases hd
  | cons e ds ih =>
    cases i with
    | zero =>
      obtain rfl := Option.some.inj hd
      exact ⟨rfl, rfl⟩
    | succ i =>
      obtain ⟨hreplies, hrun⟩ := ih hd
      exact ⟨congrArg (_ :: ·) hreplies, hrun⟩

end Resolver

theorem RequestPath.redirectSources_ne_nil (path : RequestPath) (extension : String) :
    path.redirectSources extension ≠ [] := by
  unfold redirectSources
  split <;> simp

namespace RedirectDecision

open Decomposition Resolver

/-- The rule of a path is looked up along the decompositions by which its record is. If no exact
source has a plain rule, the wildcard keys that are asked for are the first of those that the search
for a record asks for where it finds nothing, and what a rule is found with is captured as it is for
a record found there. -/
theorem resolve_decomposes {σ : Type} (answer : (q : Query) → σ → Except StoreError q.Answer × σ)
    (s : σ) (path : RequestPath) (extension : String) (fallback : Disposition) (maxProbes : Nat)
    (unpublished : Bool) :
    let below := path.decompositions.tail
    let probed := below.take maxProbes
    let records := Resolver.resolve path unpublished
    let rules := resolve path extension fallback maxProbes
    let sources := Query.redirect (path.redirectSources extension)
    let told := (answer sources s).1
    let replies := rules.replies answer s
    let result := (rules.run answer s).1
    (∀ (τ : Type) (missing : (q : Query) → τ → Except StoreError q.Answer × τ) (t : τ),
      Lookup.Steady missing → (∀ key, (missing (.record key unpublished) t).1 = .ok none) →
        records.replies missing t = (⟨path.key, []⟩ :: below).map (reply unpublished (.ok none))) ∧
    (∀ i d record, below[i]? = some d →
      records.replies (lateRecord record) (i + 1) =
          (⟨path.key, []⟩ :: below.take i).map (reply unpublished (.ok none)) ++
            [d.reply unpublished (.ok (some record))] ∧
        (records.run (lateRecord record) (i + 1)).1 = .ok (some ⟨record, d.captured⟩)) ∧
    probed.length = min path.segments.length maxProbes ∧
    (told ≠ .ok none → replies = [⟨sources, told⟩] ∧ result = told.map (ofFound fallback [])) ∧
    (told = .ok none →
      (replies = ⟨sources, told⟩ :: probed.map (ruleReply (.ok none)) ∧ result = .ok (.notFound fallback)) ∨
      ∃ missed d later found, probed = missed ++ d :: later ∧ found ≠ .ok none ∧
        replies = ⟨sources, told⟩ :: (missed.map (ruleReply (.ok none)) ++ [d.ruleReply found]) ∧
        result = found.map (ofFound fallback d.captured)) ∧
    ∀ store : Store, store.HasUniqueSources →
      ((rules.run Store.answer store).1 = .ok (.notFound fallback) ↔
        (∀ source ∈ path.redirectSources extension, store.LacksPlainRule source) ∧
          ∀ d ∈ probed, (store.answer (.wildcardRedirect d.key)).1 = .ok none) := by
  intro below probed records rules sources told replies result
  obtain ⟨hexact, hprobes⟩ := resolve_cases path extension fallback maxProbes answer s
  refine ⟨?_, ?_, ?_, hexact, hprobes, ?_⟩
  · intro τ missing t hsteady hnone
    exact replies_resolve_of_no_records unpublished hsteady hnone path
  · intro i d record hd
    have hnext : path.decompositions[i + 1]? = some d := hd
    have hlate := search_lateRecord unpublished hnext record
    rw [← Resolver.resolve_eq_search] at hlate
    exact hlate
  · have hlength : below.length = path.segments.length := by
      rw [List.length_tail, path.length_decompositions, Nat.add_sub_cancel]
    rw [List.length_take, hlength, Nat.min_comm]
  · intro store hstore
    refine (resolve_eq_notFound_iff path extension fallback maxProbes store Store.steady_answer).trans ?_
    exact and_congr_left' (Store.answer_redirect_eq_none_iff hstore (path.redirectSources_ne_nil extension))

end RedirectDecision

namespace Probes

def site : Store :=
  .relational (RelationalStore.fresh.putRedirect ⟨"/old/*", "/new/*", .permanent⟩).2

def path : RequestPath :=
  RequestPath.parse "html" "/old/a/b"

def keys : List Decomposition :=
  [⟨"/old/a/*", ["b"]⟩, ⟨"/old/*", ["a", "b"]⟩, ⟨"/*", ["old", "a", "b"]⟩]

/-- With one probe the rule two segments up is not found, and no exact source has another. -/
theorem resolve_decomposes_old :
    (Resolver.resolve path false).replies Store.answer (.memory {}) =
      (⟨"/old/a/b", []⟩ :: keys).map (Decomposition.reply false (.ok none)) ∧
    site.HasUniqueSources ∧
    ((RedirectDecision.resolve path "html" .notFound 1).run Store.answer site).1 =
      .ok (.notFound .notFound) ∧
    (∀ source ∈ ["/old/a/b/", "/old/a/b.html", "/old/a/b"], site.LacksPlainRule source) ∧
    (site.answer (.wildcardRedirect "/old/a/*")).1 = .ok none ∧
    ((RedirectDecision.resolve path "html" .notFound 2).run Store.answer site).1 =
      .ok (.rule ⟨"/old/*", "/new/*", .permanent⟩ ["a", "b"]) := by
  have hunique : site.HasUniqueSources := by
    rintro _ ⟨⟩
    decide
  have hnone : ((RedirectDecision.resolve path "html" .notFound 1).run Store.answer site).1 =
      .ok (.notFound .notFound) := by decide +kernel
  have hkeys : path.decompositions = ⟨"/old/a/b", []⟩ :: keys := by decide +kernel
  obtain ⟨hrecords, -, -, -, -, hnotFound⟩ :=
    RedirectDecision.resolve_decomposes Store.answer site path "html" .notFound 1 false
  obtain ⟨hsources, hprobed⟩ := (hnotFound site hunique).mp hnone
  refine ⟨?_, hunique, hnone, hsources, hprobed ⟨"/old/a/*", ["b"]⟩ (by decide +kernel),
    by decide +kernel⟩
  rw [← hkeys]
  exact hrecords Store Store.answer (.memory {}) Store.steady_answer fun _ => rfl

end Probes

end ContentServer
