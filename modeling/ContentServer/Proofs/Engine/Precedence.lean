import ContentServer.Proofs.Engine.Visibility

namespace ContentServer

namespace Lookup

variable {σ : Type} {answer : (q : Query) → σ → Except StoreError q.Answer × σ}

theorem run_bind_of_ok {α β : Type} {l : Lookup α} {s t : σ} {a : α}
    (h : l.run answer s = (.ok a, t)) (f : α → Lookup β) :
    (l >>= f).run answer s = (f a).run answer t := by
  rw [run_bind, h]

end Lookup

def Outcome.HasOwnStatus : Outcome → Prop
  | page _ => True
  | redirect emission => emission.status ∈ [301, 302, 303, 307]
  | status disposition => disposition.isRedirect = false

theorem Disposition.code_mem_of_isRedirect {d : Disposition} :
    d.isRedirect → d.code ∈ [301, 302, 303, 307] := by
  cases d <;> decide

theorem RedirectDecision.probe_ends (fallback : Disposition) (probes : Nat)
    (kept parameters : List String) :
    (probe fallback probes kept parameters).Ends fun decision =>
      ∀ d, decision = .notFound d → d = fallback := by
  induction kept generalizing probes parameters with
  | nil => cases probes <;> exact Lookup.ends_pure fun d hd => (notFound.inj hd).symm
  | cons segment kept ih =>
    cases probes with
    | zero => exact Lookup.ends_pure fun d hd => (notFound.inj hd).symm
    | succ probes =>
      refine (Lookup.ends_true _).bind fun found _ => ?_
      cases found with
      | none => exact ih _ _
      | some rule => exact Lookup.ends_pure nofun

theorem RedirectDecision.resolve_ends (path : RequestPath) (extension : String)
    (fallback : Disposition) (maxProbes : Nat) :
    (resolve path extension fallback maxProbes).Ends fun decision =>
      ∀ d, decision = .notFound d → d = fallback := by
  refine (Lookup.ends_true _).bind fun found _ => ?_
  cases found with
  | none => exact probe_ends _ _ _ _
  | some rule => exact Lookup.ends_pure nofun

namespace Engine

variable (engine : Engine) (request : PageRequest) (path : RequestPath)

abbrev pathOf : RequestPath :=
  RequestPath.parse engine.settings.extension request.path

/-- Does a record decide a request? It sends the request on to its canonical path, or its content
lacks no table. -/
def Decides (resolved : Resolved) : Prop :=
  (∃ target, path.enforce resolved.record.canonical engine.settings.extension request.query =
    some target) ∨
    ∃ interpretation, engine.interpreter.interpret resolved.record.content resolved.parameters
      resolved.record.id = .ok interpretation

theorem decides_iff (resolved : Resolved) :
    engine.Decides request path resolved ↔
      ∃ plan, engine.recordPlan request path resolved = some plan := by
  simp only [Decides, recordPlan]
  cases path.enforce resolved.record.canonical engine.settings.extension request.query with
  | some target => exact iff_of_true (.inl ⟨target, rfl⟩) ⟨_, rfl⟩
  | none =>
    cases engine.interpreter.interpret resolved.record.content resolved.parameters resolved.record.id with
    | error missing => simp
    | ok interpretation =>
      refine iff_of_true (.inr ⟨interpretation, rfl⟩) ?_
      cases interpretation with
      | redirect target => exact ⟨_, rfl⟩
      | page assembly => exact ⟨_, rfl⟩

theorem complete_asks (plan : Plan) : (complete plan).Asks fun q => ∃ id, q = .ancestors id := by
  cases plan with
  | outcome outcome => exact trivial
  | page page own => exact Lookup.Asks.bind (Lookup.asks_query ⟨_, rfl⟩) fun _ => trivial

theorem redirectOutcome_ends : (engine.redirectOutcome request path).Ends Outcome.HasOwnStatus := by
  refine (RedirectDecision.resolve_ends _ _ _ _).bind fun decision hdecision => ?_
  cases decision with
  | notFound fallback =>
    obtain rfl := hdecision fallback rfl
    exact Lookup.ends_pure rfl
  | rule rule parameters =>
    dsimp only [RedirectDecision.target?]
    split
    · next hredirect => exact Lookup.ends_pure (Disposition.code_mem_of_isRedirect hredirect)
    · next hredirect => exact Lookup.ends_pure (eq_false_of_ne_true hredirect)

theorem recordPlan_hasOwnStatus {resolved : Resolved} {outcome : Outcome}
    (h : engine.recordPlan request path resolved = some (.outcome outcome)) :
    outcome.HasOwnStatus := by
  unfold recordPlan at h
  dsimp only at h
  split at h
  · obtain rfl := Plan.outcome.inj (Option.some.inj h)
    exact Disposition.code_mem_of_isRedirect (d := .permanent) rfl
  · split at h
    · cases h
    · obtain rfl := Plan.outcome.inj (Option.some.inj h)
      exact Disposition.code_mem_of_isRedirect (d := .temporary) rfl
    · cases h

theorem plan_ends :
    (engine.plan request).Ends fun plan => ∀ outcome, plan = .outcome outcome →
      outcome.HasOwnStatus := by
  refine (Lookup.ends_true _).bind fun found _ => ?_
  split
  · next plan hplan =>
    refine Lookup.ends_pure fun outcome houtcome => ?_
    subst houtcome
    obtain ⟨resolved, -, hresolved⟩ := Option.bind_eq_some_iff.mp hplan
    exact engine.recordPlan_hasOwnStatus request _ hresolved
  · refine (engine.redirectOutcome_ends request _).bind fun outcome houtcome => Lookup.ends_pure ?_
    rintro _ ⟨⟩
    exact houtcome

theorem handle_ends :
    (engine.handle request).Ends fun result => ∀ outcome, result = .ok outcome →
      outcome.HasOwnStatus := by
  rw [handle_eq]
  refine (engine.plan_ends request).bind fun plan hplan => ?_
  cases plan with
  | outcome outcome =>
    refine Lookup.ends_pure ?_
    rintro _ ⟨⟩
    exact hplan outcome rfl
  | page page own =>
    refine (Lookup.ends_true _).bind fun entries _ => Lookup.ends_pure fun outcome htrailed => ?_
    rw [Page.trailed] at htrailed
    cases htrail : Hierarchy.trail entries page.recordId with
    | error cycle =>
      rw [htrail] at htrailed
      cases htrailed
    | ok trail =>
      rw [htrail] at htrailed
      obtain rfl := Except.ok.inj htrailed
      exact trivial

section Stages

variable {σ : Type} {answer : (q : Query) → σ → Except StoreError q.Answer × σ} {s t : σ}

variable {engine request}

theorem run_handle_of_decides {resolved : Resolved} {plan : Plan}
    (hfound : (Resolver.resolve (engine.pathOf request) request.unpublished).run answer s =
      (.ok (some resolved), t))
    (hplan : engine.recordPlan request (engine.pathOf request) resolved = some plan) :
    (engine.handle request).run answer s = (complete plan).run answer t := by
  rw [handle_eq, Engine.plan, Lookup.bind_assoc, Lookup.run_bind_of_ok hfound, Option.bind_some,
    hplan, Lookup.pure_bind]

theorem run_handle_of_not_decides {found : Option Resolved}
    (hfound : (Resolver.resolve (engine.pathOf request) request.unpublished).run answer s =
      (.ok found, t))
    (hdecides : ∀ resolved, found = some resolved →
      ¬ engine.Decides request (engine.pathOf request) resolved) :
    ((engine.handle request).run answer s).1 =
      ((engine.redirectOutcome request (engine.pathOf request)).run answer t).1.map .ok := by
  have hplan : found.bind (engine.recordPlan request (engine.pathOf request)) = none := by
    refine Option.bind_eq_none_iff.mpr fun resolved hresolved => ?_
    cases hrecord : engine.recordPlan request (engine.pathOf request) resolved with
    | none => rfl
    | some plan =>
      have hdecided :=
        (engine.decides_iff request (engine.pathOf request) resolved).mpr ⟨plan, hrecord⟩
      exact absurd hdecided (hdecides resolved hresolved)
  rw [handle_eq, Engine.plan, Lookup.bind_assoc, Lookup.run_bind_of_ok hfound, hplan]
  dsimp only
  rw [Lookup.bind_assoc, Lookup.run_bind]
  rcases (engine.redirectOutcome request (engine.pathOf request)).run answer t
    with ⟨e | outcome, t'⟩ <;> rfl

end Stages

section TwoStores

variable {σ τ : Type} {answer : (q : Query) → σ → Except StoreError q.Answer × σ}
  {answer' : (q : Query) → τ → Except StoreError q.Answer × τ}

/-- Records come before redirect rules, for two stores that asking does not change. If a record of
the first decides the request, all stores that differ in nothing but the rules give the same result.
If none does, the result is that of a store with the same rules and no records. A bare status is
never that of a redirect, and a redirect never has another status. -/
theorem handle_precedence (h : Lookup.Steady answer) (h' : Lookup.Steady answer') (s : σ) (t : τ) :
    let found := ((Resolver.resolve (engine.pathOf request) request.unpublished).run answer s).1
    let result := ((engine.handle request).run answer s).1
    let result' := ((engine.handle request).run answer' t).1
    (∀ resolved, found = .ok (some resolved) → engine.Decides request (engine.pathOf request) resolved →
      (∀ q : Query, ¬ q.IsRedirect → (answer q s).1 = (answer' q t).1) → result = result') ∧
    ((found = .ok none ∨ ∃ resolved, found = .ok (some resolved) ∧
        ¬ engine.Decides request (engine.pathOf request) resolved) →
      (∀ q : Query, q.IsRedirect → (answer q s).1 = (answer' q t).1) →
      (∀ key unpublished, (answer' (.record key unpublished) t).1 = .ok none) → result = result') ∧
    ∀ outcome, result = .ok (.ok outcome) → outcome.HasOwnStatus := by
  intro found result result'
  have hstill := fun q => h.run (Resolver.resolve (engine.pathOf request) request.unpublished) q s
  have hstill' := fun q => h'.run (Resolver.resolve (engine.pathOf request) request.unpublished) q t
  refine ⟨?_, ?_, ?_⟩
  · intro resolved hfound hdecides hsame
    obtain ⟨plan, hplan⟩ :=
      (engine.decides_iff request (engine.pathOf request) resolved).mp hdecides
    have hresolve := (Resolver.resolve_asks (engine.pathOf request) request.unpublished).mono
      (r := fun q => ¬ q.IsRedirect) (by rintro _ ⟨key, rfl⟩; exact id)
    have hfound' := (h.run_eq h' hresolve hsame).symm.trans hfound
    have hcomplete := (complete_asks plan).mono (r := fun q => ¬ q.IsRedirect)
      (by rintro _ ⟨id, rfl⟩ hq; exact hq)
    have hresult : result = _ :=
      congrArg Prod.fst (run_handle_of_decides (Prod.ext hfound rfl) hplan)
    have hresult' : result' = _ :=
      congrArg Prod.fst (run_handle_of_decides (Prod.ext hfound' rfl) hplan)
    rw [hresult, hresult']
    exact h.run_eq h' hcomplete fun q hq => by rw [hstill, hstill', hsame q hq]
  · intro hpasses hsame hnone
    have hfound' :
        ((Resolver.resolve (engine.pathOf request) request.unpublished).run answer' t).1 =
        .ok none := by
      rw [Resolver.resolve_eq_search]
      exact Decomposition.search_of_no_records _ h' (fun key => hnone key _) _
    have hresult' : result' = _ := run_handle_of_not_decides (Prod.ext hfound' rfl) (by rintro _ ⟨⟩)
    have hredirects :
        ((engine.redirectOutcome request (engine.pathOf request)).run answer _).1 = _ :=
      h.run_eq h' (engine.redirectOutcome_asks request (engine.pathOf request))
        fun q hq => (hstill q).trans ((hsame q hq).trans (hstill' q).symm)
    rw [hresult', ← hredirects]
    obtain hfound | ⟨resolved, hfound, hdecides⟩ := hpasses
    · exact run_handle_of_not_decides (Prod.ext hfound rfl) (by rintro _ ⟨⟩)
    · exact run_handle_of_not_decides (Prod.ext hfound rfl) (by rintro _ ⟨⟩; exact hdecides)
  · intro outcome houtcome
    exact (engine.handle_ends request).run houtcome outcome rfl

end TwoStores

end Engine

namespace Precedence

open Visibility (engine guide)

/-- A page whose content wants a table that it does not name. -/
def chart : Record :=
  { guide with id := 3, key := "/chart", parent := none, title := "Chart", content := "%%%table%%%" }

def pages : MemoryStore :=
  (MemoryStore.putRecord {} guide).putRecord chart

def withRules (s : MemoryStore) : MemoryStore :=
  (s.putRedirect ⟨"/guide/", "/elsewhere/", .permanent⟩).putRedirect ⟨"/chart/", "/guide/", .temporary⟩

def foundFor (path : String) (s : MemoryStore) : Except StoreError (Option Resolved) :=
  ((Resolver.resolve (engine.pathOf { path }) false).run Store.answer (.memory s)).1

def outcomeOf (path : String) (s : MemoryStore) :
    Except StoreError (Except HierarchyCycle Outcome) :=
  ((engine.handle { path }).run Store.answer (.memory s)).1

/-- The rules make no difference to the guide, and the chart is sent where it would be if there was
no page. -/
theorem handle_precedence_chart :
    Lookup.Steady Store.answer ∧
    foundFor "/guide/" (withRules pages) = .ok (some ⟨guide, []⟩) ∧
    engine.Decides { path := "/guide/" } (engine.pathOf { path := "/guide/" }) ⟨guide, []⟩ ∧
    outcomeOf "/guide/" (withRules pages) = outcomeOf "/guide/" pages ∧
    foundFor "/chart/" (withRules pages) = .ok (some ⟨chart, []⟩) ∧
    ¬ engine.Decides { path := "/chart/" } (engine.pathOf { path := "/chart/" }) ⟨chart, []⟩ ∧
    outcomeOf "/chart/" (withRules pages) = outcomeOf "/chart/" (withRules {}) ∧
    outcomeOf "/chart/" (withRules {}) =
      .ok (.ok (.redirect ⟨302, "http://localhost/guide/"⟩)) := by
  have hguide : foundFor "/guide/" (withRules pages) = .ok (some ⟨guide, []⟩) := by decide +kernel
  have hchart : foundFor "/chart/" (withRules pages) = .ok (some ⟨chart, []⟩) := by decide +kernel
  have hdecides :
      engine.Decides { path := "/guide/" } (engine.pathOf { path := "/guide/" }) ⟨guide, []⟩ :=
    (engine.decides_iff _ _ _).mpr (Option.isSome_iff_exists.mp (by decide +kernel))
  have hpasses :
      ¬ engine.Decides { path := "/chart/" } (engine.pathOf { path := "/chart/" }) ⟨chart, []⟩ := by
    rw [engine.decides_iff, ← Option.isSome_iff_exists]
    decide +kernel
  have hsteady := Store.steady_answer
  refine ⟨hsteady, hguide, hdecides, ?_, hchart, hpasses, ?_, by decide +kernel⟩
  · refine (Engine.handle_precedence engine { path := "/guide/" } hsteady hsteady
      (.memory (withRules pages)) (.memory pages)).1 _ hguide hdecides fun q hq => ?_
    cases q with
    | record key unpublished => rfl
    | redirect sources => exact absurd trivial hq
    | wildcardRedirect source => exact absurd trivial hq
    | ancestors id => rfl
  · refine (Engine.handle_precedence engine { path := "/chart/" } hsteady hsteady
      (.memory (withRules pages)) (.memory (withRules {}))).2.1 (.inr ⟨_, hchart, hpasses⟩)
      (fun q hq => ?_) fun _ _ => rfl
    cases q with
    | record key unpublished => exact hq.elim
    | redirect sources => rfl
    | wildcardRedirect source => rfl
    | ancestors id => exact hq.elim

end Precedence

end ContentServer
