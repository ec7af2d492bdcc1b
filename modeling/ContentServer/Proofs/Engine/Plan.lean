import ContentServer.Engine
import ContentServer.Proofs.Path.Search

namespace ContentServer

def Query.IsRedirect : Query → Prop
  | redirect _ => True
  | wildcardRedirect _ => True
  | _ => False

theorem RedirectDecision.probe_asks (fallback : Disposition) (probes : Nat)
    (kept parameters : List String) :
    (probe fallback probes kept parameters).Asks Query.IsRedirect := by
  induction kept generalizing probes parameters with
  | nil => cases probes <;> exact trivial
  | cons segment kept ih =>
    cases probes with
    | zero => exact trivial
    | succ probes =>
      refine Lookup.Asks.bind (Lookup.asks_query trivial) fun found => ?_
      cases found with
      | none => exact ih _ _
      | some rule => exact trivial

theorem RedirectDecision.resolve_asks (path : RequestPath) (extension : String)
    (fallback : Disposition) (maxProbes : Nat) :
    (resolve path extension fallback maxProbes).Asks Query.IsRedirect := by
  refine Lookup.Asks.bind (Lookup.asks_query trivial) fun found => ?_
  cases found with
  | none => exact probe_asks _ _ _ _
  | some rule => exact trivial

/-- The page below the trail that hierarchy entries make up; `own` are its breadcrumbs from
directives. -/
def Page.trailed (page : Page) (own : List Breadcrumb) (entries : List HierarchyEntry) :
    Except HierarchyCycle Outcome :=
  (Hierarchy.trail entries page.recordId).map fun trail =>
    .page { page with breadcrumbs := Page.extendTrail trail own }

/-- What is known of the outcome of a request before the hierarchy is asked. -/
inductive Plan where
  | outcome (outcome : Outcome)
  | page (page : Page) (own : List Breadcrumb)

namespace Engine

variable (engine : Engine)

def recordPlan (request : PageRequest) (path : RequestPath) (resolved : Resolved) : Option Plan :=
  let record := resolved.record
  match path.enforce record.canonical engine.settings.extension request.query with
  | some target =>
    some (.outcome (.redirect (.to engine.interpreter.idna .permanent target request.origin)))
  | none =>
    match engine.interpreter.interpret record.content resolved.parameters record.id with
    | .error _ => none
    | .ok (.redirect target) =>
      some (.outcome (.redirect (.to engine.interpreter.idna .temporary target request.origin)))
    | .ok (.page assembly) =>
      some (.page (.assemble record resolved.parameters assembly [] path engine.settings)
        assembly.breadcrumbs)

def plan (request : PageRequest) : Lookup Plan := do
  let path := RequestPath.parse engine.settings.extension request.path
  match (← Resolver.resolve path request.unpublished).bind (engine.recordPlan request path) with
  | some plan => return plan
  | none => return .outcome (← engine.redirectOutcome request path)

theorem redirectOutcome_asks (request : PageRequest) (path : RequestPath) :
    (engine.redirectOutcome request path).Asks Query.IsRedirect := by
  refine Lookup.Asks.bind (RedirectDecision.resolve_asks _ _ _ _) fun decision => ?_
  cases decision.target? with
  | none => exact trivial
  | some target => dsimp only; split <;> exact trivial

def complete : Plan → Lookup (Except HierarchyCycle Outcome)
  | .outcome outcome => return .ok outcome
  | .page page own => do
    let entries ← Lookup.query (.ancestors page.recordId)
    return page.trailed own entries

theorem handle_eq (request : PageRequest) :
    engine.handle request = engine.plan request >>= complete := by
  simp only [handle, plan, Lookup.bind_assoc]
  congr 1
  funext found
  cases found with
  | none => simp only [Option.bind_none, Lookup.bind_assoc, Lookup.pure_bind, complete]
  | some resolved =>
    simp only [Option.bind_some, recordOutcome, recordPlan]
    cases RequestPath.enforce _ resolved.record.canonical engine.settings.extension request.query with
    | some target => simp only [Lookup.pure_bind, complete]
    | none =>
      cases engine.interpreter.interpret resolved.record.content resolved.parameters
          resolved.record.id with
      | error missing => simp only [Lookup.bind_assoc, Lookup.pure_bind, complete]
      | ok interpretation =>
        cases interpretation with
        | redirect target => simp only [Lookup.pure_bind, complete]
        | page assembly =>
          simp only [Lookup.bind_assoc, Lookup.pure_bind, complete]
          congr 1
          funext entries
          simp only [Page.trailed, Page.assemble]
          cases Hierarchy.trail entries resolved.record.id <;> rfl

theorem plan_asks_no_ancestors (request : PageRequest) :
    (engine.plan request).Asks fun q => ∀ id, q ≠ .ancestors id := by
  unfold plan
  refine Lookup.Asks.bind ((Resolver.resolve_asks _ _).mono ?_) fun found => ?_
  · rintro _ ⟨key, rfl⟩ id
    exact nofun
  · split
    · exact trivial
    · refine Lookup.Asks.bind ((engine.redirectOutcome_asks _ _).mono ?_) fun _ => trivial
      rintro q hq id rfl
      exact hq

section Run

variable {σ τ : Type} {answer : (q : Query) → σ → Except StoreError q.Answer × σ}
  {answer' : (q : Query) → τ → Except StoreError q.Answer × τ}

/-- The run of a request in terms of its plan. The ancestors are those of the store as it was at
first. -/
theorem run_handle_eq (h : Lookup.Steady answer) (request : PageRequest) (s : σ) :
    ((engine.handle request).run answer s).1 =
      match ((engine.plan request).run answer s).1 with
      | .error e => .error e
      | .ok (.outcome outcome) => .ok (.ok outcome)
      | .ok (.page page own) => (answer (.ancestors page.recordId) s).1.map (page.trailed own) := by
  have hrun := fun r => h.run (engine.plan request) r s
  rw [handle_eq, Lookup.run_bind]
  generalize (engine.plan request).run answer s = planned at hrun ⊢
  obtain ⟨plan, after⟩ := planned
  cases plan with
  | error e => rfl
  | ok plan =>
    cases plan with
    | outcome outcome => rfl
    | page page own =>
      have hentries := hrun (.ancestors page.recordId)
      dsimp only at hentries ⊢
      rw [complete, Lookup.run_query_map, hentries]

/-- Two stores that differ in nothing but how they list ancestors give the same result where the
lists make up the same trails. -/
theorem run_handle_congr (h : Lookup.Steady answer) (h' : Lookup.Steady answer') (request : PageRequest)
    {s : σ} {t : τ} (heq : ∀ q, (∀ id, q ≠ .ancestors id) → (answer q s).1 = (answer' q t).1)
    (htrail : ∀ id, (answer (.ancestors id) s).1.map (Hierarchy.trail · id) =
      (answer' (.ancestors id) t).1.map (Hierarchy.trail · id)) :
    ((engine.handle request).run answer s).1 = ((engine.handle request).run answer' t).1 := by
  have htrailed :
      ∀ (page : Page) (own : List Breadcrumb) (told : Except StoreError (List HierarchyEntry)),
      told.map (page.trailed own) = (told.map (Hierarchy.trail · page.recordId)).map
        (Except.map fun trail => .page { page with breadcrumbs := Page.extendTrail trail own }) := by
    intro page own told
    cases told <;> rfl
  rw [engine.run_handle_eq h, engine.run_handle_eq h',
    h.run_eq h' (engine.plan_asks_no_ancestors request) heq]
  split
  · rfl
  · rfl
  · rw [htrailed, htrailed, htrail]

end Run

end Engine

end ContentServer
