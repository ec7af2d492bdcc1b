import ContentServer.Http.Site
import ContentServer.Proofs.Engine.Precedence
import ContentServer.Proofs.Lookup.Faults
import ContentServer.Proofs.Redirect.Probes

namespace ContentServer

open Decomposition

/-- The store has said that there is no record under any key of the path. -/
def RequestPath.RecordsMissed (path : RequestPath) (unpublished : Bool) (log : List Lookup.Reply) :
    Prop :=
  ∀ d ∈ path.decompositions, d.reply unpublished (.ok none) ∈ log

def RequestPath.RulesMissed (path : RequestPath) (settings : Settings) (log : List Lookup.Reply) :
    Prop :=
  ⟨.redirect (path.redirectSources settings.extension), .ok none⟩ ∈ log ∧
    ∀ d ∈ path.decompositions.tail.take settings.maxRedirectProbes.toNat, d.ruleReply (.ok none) ∈ log

def RedirectRule.ToldIn (rule : RedirectRule) (log : List Lookup.Reply) : Prop :=
  (∃ sources, ⟨.redirect sources, .ok (some rule)⟩ ∈ log) ∨ ∃ d, ruleReply (.ok (some rule)) d ∈ log

/-- The store has told a record for the path, and its content lacks a table. -/
def Engine.RecordPassed (engine : Engine) (request : PageRequest) (log : List Lookup.Reply) :
    Prop :=
  ∃ (d : Decomposition) (record : Record), d.reply request.unpublished (.ok (some record)) ∈ log ∧
    ¬engine.Decides request (engine.pathOf request) (d.resolved record)

section Told

variable {log more : List Lookup.Reply}

theorem RequestPath.RecordsMissed.append_right {path : RequestPath} {unpublished : Bool}
    (h : path.RecordsMissed unpublished log) : path.RecordsMissed unpublished (log ++ more) :=
  fun d hd => List.mem_append_left _ (h d hd)

theorem Engine.RecordPassed.append_right {engine : Engine} {request : PageRequest}
    (h : engine.RecordPassed request log) : engine.RecordPassed request (log ++ more) := by
  obtain ⟨d, record, htold, hpassed⟩ := h
  exact ⟨d, record, List.mem_append_left _ htold, hpassed⟩

theorem RequestPath.RulesMissed.append_left {path : RequestPath} {settings : Settings}
    (h : path.RulesMissed settings log) : path.RulesMissed settings (more ++ log) :=
  ⟨List.mem_append_right _ h.1, fun d hd => List.mem_append_right _ (h.2 d hd)⟩

theorem RedirectRule.ToldIn.append_left {rule : RedirectRule} (h : rule.ToldIn log) :
    rule.ToldIn (more ++ log) :=
  h.imp (fun ⟨sources, htold⟩ => ⟨sources, List.mem_append_right _ htold⟩)
    fun ⟨d, htold⟩ => ⟨d, List.mem_append_right _ htold⟩

end Told

variable {σ : Type} {answer : (q : Query) → σ → Except StoreError q.Answer × σ} {s : σ}

theorem Resolver.probe_prompt (unpublished : Bool) (kept parameters : List String) :
    (probe unpublished kept parameters).Prompt := by
  induction kept generalizing parameters with
  | nil => exact Lookup.prompt_pure none
  | cons segment kept ih =>
    refine (Lookup.prompt_query _).bind fun found => ?_
    cases found with
    | none => exact ih (segment :: parameters)
    | some record => exact Lookup.prompt_pure _

theorem Resolver.resolve_prompt (path : RequestPath) (unpublished : Bool) :
    (resolve path unpublished).Prompt := by
  refine (Lookup.prompt_query _).bind fun found => ?_
  cases found with
  | none => exact probe_prompt unpublished path.segments.reverse []
  | some record => exact Lookup.prompt_pure _

theorem RedirectDecision.probe_prompt (fallback : Disposition) (probes : Nat)
    (kept parameters : List String) : (probe fallback probes kept parameters).Prompt := by
  induction kept generalizing probes parameters with
  | nil => cases probes <;> exact Lookup.prompt_pure _
  | cons segment kept ih =>
    cases probes with
    | zero => exact Lookup.prompt_pure _
    | succ probes =>
      refine (Lookup.prompt_query _).bind fun found => ?_
      cases found with
      | none => exact ih probes (segment :: parameters)
      | some rule => exact Lookup.prompt_pure _

theorem RedirectDecision.resolve_prompt (path : RequestPath) (extension : String)
    (fallback : Disposition) (maxProbes : Nat) :
    (resolve path extension fallback maxProbes).Prompt := by
  refine (Lookup.prompt_query _).bind fun found => ?_
  cases found with
  | none => exact probe_prompt fallback maxProbes path.segments.reverse []
  | some rule => exact Lookup.prompt_pure _

theorem Resolver.replies_of_resolve {path : RequestPath} {unpublished : Bool}
    {found : Option Resolved} (h : ((resolve path unpublished).run answer s).1 = .ok found) :
    (found = none ∧ path.RecordsMissed unpublished ((resolve path unpublished).replies answer s)) ∨
    ∃ (d : Decomposition) (record : Record), found = some (d.resolved record) ∧
      d.reply unpublished (.ok (some record)) ∈ (resolve path unpublished).replies answer s := by
  rw [resolve_eq_search] at h ⊢
  obtain ⟨hreplies, hrun⟩ | ⟨missed, d, later, told, -, htold, hreplies, hrun⟩ :=
    search_cases unpublished answer path.decompositions s
  · refine .inl ⟨Except.ok.inj (h.symm.trans hrun), fun d hd => ?_⟩
    rw [hreplies]
    exact List.mem_map_of_mem hd
  · have hlast :
        d.reply unpublished told ∈ (search unpublished path.decompositions).replies answer s := by
      rw [hreplies]
      simp
    rw [hrun] at h
    obtain e | none | record := told
    · cases h
    · exact absurd rfl htold
    · exact .inr ⟨d, record, (Except.ok.inj h).symm, hlast⟩

theorem RedirectDecision.replies_of_resolve {path : RequestPath} {settings : Settings}
    {fallback : Disposition} {decision : RedirectDecision}
    (h : ((resolve path settings.extension fallback settings.maxRedirectProbes.toNat).run answer s).1 =
      .ok decision) :
    let log :=
      (resolve path settings.extension fallback settings.maxRedirectProbes.toNat).replies answer s
    (decision = .notFound fallback ∧ path.RulesMissed settings log) ∨
      ∃ rule parameters, decision = .rule rule parameters ∧ rule.ToldIn log := by
  obtain ⟨hsettled, hprobed⟩ := resolve_cases path settings.extension fallback
    settings.maxRedirectProbes.toNat answer s
  intro log
  rcases htold : (answer (.redirect (path.redirectSources settings.extension)) s).1 with e | (_ | rule)
  · obtain ⟨-, hrun⟩ := hsettled (by rw [htold]; exact nofun)
    rw [h, htold] at hrun
    cases hrun
  · obtain ⟨hreplies, hrun⟩ | ⟨missed, d, later, found, -, hfound, hreplies, hrun⟩ := hprobed htold
    · refine .inl ⟨Except.ok.inj (h.symm.trans hrun), ?_, fun d hd => ?_⟩
      · rw [show log = _ from hreplies, htold]
        exact List.mem_cons_self
      · rw [show log = _ from hreplies]
        exact List.mem_cons_of_mem _ (List.mem_map_of_mem hd)
    · have hlast : d.ruleReply found ∈ log := by
        rw [show log = _ from hreplies]
        simp
      rw [h] at hrun
      obtain e | none | rule := found
      · cases hrun
      · exact absurd rfl hfound
      · exact .inr ⟨rule, d.captured, Except.ok.inj hrun, .inr ⟨d, hlast⟩⟩
  · obtain ⟨hreplies, hrun⟩ := hsettled (by rw [htold]; exact nofun)
    rw [h, htold] at hrun
    refine .inr ⟨rule, [], Except.ok.inj hrun, .inl ⟨path.redirectSources settings.extension, ?_⟩⟩
    rw [show log = _ from hreplies, htold]
    exact List.mem_singleton_self _

namespace Engine

variable {engine : Engine} {request : PageRequest}

theorem redirectOutcome_prompt (path : RequestPath) :
    (engine.redirectOutcome request path).Prompt := by
  refine (RedirectDecision.resolve_prompt _ _ _ _).bind fun decision => ?_
  cases decision.target? with
  | none => exact Lookup.prompt_pure _
  | some target => dsimp only; split <;> exact Lookup.prompt_pure _

theorem recordOutcome_prompt (path : RequestPath) (resolved : Resolved) :
    (engine.recordOutcome request path resolved).Prompt := by
  unfold recordOutcome
  dsimp only
  split
  · exact Lookup.prompt_pure _
  · split
    · exact Lookup.prompt_pure _
    · exact Lookup.prompt_pure _
    · exact (Lookup.prompt_query _).bind fun entries => Lookup.prompt_pure _

/-- A request goes nowhere from a failed query but to the failure of that query. -/
theorem handle_prompt (request : PageRequest) : (engine.handle request).Prompt := by
  refine (Resolver.resolve_prompt _ _).bind fun found => ?_
  cases found with
  | none => exact (redirectOutcome_prompt _).bind fun outcome => Lookup.prompt_pure _
  | some resolved =>
    refine (recordOutcome_prompt _ resolved).bind fun outcome => ?_
    split
    · exact Lookup.prompt_pure _
    · exact Lookup.prompt_pure _
    · exact (redirectOutcome_prompt _).bind fun outcome => Lookup.prompt_pure _

theorem replies_redirectOutcome (path : RequestPath) (s : σ) :
    (engine.redirectOutcome request path).replies answer s =
      (RedirectDecision.resolve path engine.settings.extension .notFound
        engine.settings.maxRedirectProbes.toNat).replies answer s := by
  rw [redirectOutcome, Lookup.replies_bind]
  obtain ⟨e | decision, t⟩ := (RedirectDecision.resolve path engine.settings.extension .notFound
    engine.settings.maxRedirectProbes.toNat).run answer s
  · exact List.append_nil _
  · dsimp only
    cases decision.target? with
    | none => exact List.append_nil _
    | some target => dsimp only; split <;> exact List.append_nil _

theorem replies_of_redirectOutcome_status {path : RequestPath} {d : Disposition}
    (h : ((engine.redirectOutcome request path).run answer s).1 = .ok (.status d)) :
    let log := (engine.redirectOutcome request path).replies answer s
    (d = .notFound ∧ path.RulesMissed engine.settings log) ∨
      ∃ rule : RedirectRule, rule.disposition = d ∧ rule.ToldIn log := by
  have hdecision := @RedirectDecision.replies_of_resolve σ answer s path engine.settings .notFound
  rw [replies_redirectOutcome]
  rw [redirectOutcome, Lookup.run_bind] at h
  generalize (RedirectDecision.resolve path engine.settings.extension .notFound
    engine.settings.maxRedirectProbes.toNat).run answer s = decided at h hdecision
  obtain ⟨e | decision, t⟩ := decided
  · cases h
  · obtain ⟨rfl, hmissed⟩ | ⟨rule, parameters, rfl, htold⟩ := hdecision rfl
    · cases h
      exact .inl ⟨rfl, hmissed⟩
    · refine .inr ⟨rule, ?_, htold⟩
      dsimp only at h
      split at h
      · split at h <;> cases h
        rfl
      · cases h
        rfl

theorem replies_handle_of_not_decides {found : Option Resolved} {t : σ}
    (hfound : (Resolver.resolve (engine.pathOf request) request.unpublished).run answer s =
      (.ok found, t))
    (hplan : found.bind (engine.recordPlan request (engine.pathOf request)) = none) :
    (engine.handle request).replies answer s =
      (Resolver.resolve (engine.pathOf request) request.unpublished).replies answer s ++
        (engine.redirectOutcome request (engine.pathOf request)).replies answer t := by
  rw [handle_eq, Engine.plan, Lookup.bind_assoc, Lookup.replies_bind, hfound]
  dsimp only
  rw [hplan]
  dsimp only
  rw [Lookup.bind_assoc, Lookup.replies_bind]
  rcases (engine.redirectOutcome request (engine.pathOf request)).run answer t with ⟨e | outcome, t'⟩
  · rw [List.append_nil]
  · exact congrArg _ (List.append_nil _)

theorem head?_replies_handle :
    ((engine.handle request).replies answer s).head? =
      some ⟨.record (engine.pathOf request).key request.unpublished,
        (answer (.record (engine.pathOf request).key request.unpublished) s).1⟩ := by
  rw [handle, Resolver.resolve, Lookup.bind_assoc, Lookup.replies_query_bind]
  obtain ⟨e | found, t⟩ :=
    answer (.record (engine.pathOf request).key request.unpublished) s <;> rfl

theorem recordPlan_ne_status {path : RequestPath} {resolved : Resolved} (d : Disposition) :
    engine.recordPlan request path resolved ≠ some (.outcome (.status d)) := by
  unfold recordPlan
  dsimp only
  split
  · nofun
  · split <;> nofun

theorem run_complete_ne_status {plan : Plan} {d : Disposition} (hplan : plan ≠ .outcome (.status d)) :
    ((complete plan).run answer s).1 ≠ .ok (.ok (.status d)) := by
  intro h
  cases plan with
  | outcome outcome =>
    cases h
    exact hplan rfl
  | page page own =>
    rw [complete, Lookup.run_query_map] at h
    cases hentries : (answer (.ancestors page.recordId) s).1 with
    | error e =>
      rw [hentries] at h
      cases h
    | ok entries =>
      rw [hentries] at h
      have htrailed := Except.ok.inj h
      rw [Page.trailed] at htrailed
      cases htrail : Hierarchy.trail entries page.recordId <;>
        rw [htrail] at htrailed <;> cases htrailed

/-- What the store has said when a request ends in a bare status: that no record decides it, and
that no rule is found, or else the rule that asks for this status. -/
theorem replies_of_handle_status {d : Disposition}
    (h : ((engine.handle request).run answer s).1 = .ok (.ok (.status d))) :
    let log := (engine.handle request).replies answer s
    ((engine.pathOf request).RecordsMissed request.unpublished log ∨ engine.RecordPassed request log) ∧
      ((d = .notFound ∧ (engine.pathOf request).RulesMissed engine.settings log) ∨
        ∃ rule : RedirectRule, rule.disposition = d ∧ rule.ToldIn log) := by
  have hresolve :=
    @Resolver.replies_of_resolve σ answer s (engine.pathOf request) request.unpublished
  rcases hfound : (Resolver.resolve (engine.pathOf request) request.unpublished).run answer s with
    ⟨e | found, t⟩
  · rw [handle_eq, Engine.plan, Lookup.bind_assoc, Lookup.run_bind, hfound] at h
    cases h
  rw [hfound] at hresolve
  -- No plan that a record makes ends in a bare status.
  have hplan : found.bind (engine.recordPlan request (engine.pathOf request)) = none := by
    refine Option.bind_eq_none_iff.mpr fun resolved hresolved => ?_
    subst hresolved
    cases hplan : engine.recordPlan request (engine.pathOf request) resolved with
    | none => rfl
    | some plan =>
      rw [run_handle_of_decides hfound hplan] at h
      have hne : plan ≠ .outcome (.status d) := by
        rintro rfl
        exact recordPlan_ne_status d hplan
      exact absurd h (run_complete_ne_status hne)
  have hpasses : ∀ resolved, found = some resolved →
      ¬engine.Decides request (engine.pathOf request) resolved := by
    rintro resolved rfl
    rw [decides_iff]
    rintro ⟨plan, hsome⟩
    exact Option.some_ne_none plan (hsome.symm.trans hplan)
  have hredirect : ((engine.redirectOutcome request (engine.pathOf request)).run answer t).1 =
      .ok (.status d) := by
    rw [run_handle_of_not_decides hfound hpasses] at h
    cases houtcome : ((engine.redirectOutcome request (engine.pathOf request)).run answer t).1 <;>
      rw [houtcome] at h <;> cases h
    rfl
  rw [replies_handle_of_not_decides hfound hplan]
  constructor
  · obtain ⟨-, hmissed⟩ | ⟨c, record, rfl, htold⟩ := hresolve rfl
    · exact .inl hmissed.append_right
    · exact .inr (.append_right ⟨c, record, htold, hpasses _ rfl⟩)
  · obtain ⟨hd, hmissed⟩ | ⟨rule, hrule, htold⟩ := replies_of_redirectOutcome_status hredirect
    · exact .inl ⟨hd, hmissed.append_left⟩
    · exact .inr ⟨rule, hrule, htold.append_left⟩

end Engine

namespace Http.Site

variable [RecordStore σ] (site : Site) {request : Request}

theorem servePage_of_error (hreading : isReading request.method) {e : StoreError}
    (h : ((site.engine.handle (site.pageRequest request)).run RecordStore.answer s).1 = .error e) :
    (site.servePage request s).1 = .error (.storeUnavailable e) := by
  rw [servePage, if_pos hreading]
  generalize (site.engine.handle (site.pageRequest request)).run RecordStore.answer s = result at h ⊢
  obtain ⟨result, t⟩ := result
  obtain rfl := h
  rfl

theorem respond_of_failure (occasion : Occasion) (hreading : isReading request.method)
    (hprobe : Probe.ofPath? request.target.path = none) {failure : Failure}
    (h : (site.servePage request s).1 = .error failure) :
    (site.respond occasion request s).1.status = failure.status ∧
      (site.respond occasion request s).1.body =
        if request.method = "HEAD" then "" else (StatusText.of failure.status).html := by
  have hroute : (site.route occasion.now request s).1 = .statusPage failure.status := by
    rw [route, hprobe]
    generalize site.servePage request s = served at h ⊢
    obtain ⟨served, t⟩ := served
    obtain rfl := h
    rfl
  have hmethod : request.method ≠ "OPTIONS" := by
    intro h
    rw [h] at hreading
    exact absurd hreading (by decide)
  rw [respond, routeCors]
  generalize site.route occasion.now request s = routed at hroute ⊢
  obtain ⟨routed, t⟩ := routed
  obtain rfl := hroute
  cases site.cors with
  | none => dsimp only; split <;> exact ⟨rfl, rfl⟩
  | some cors =>
    dsimp only
    rw [if_neg hmethod]
    split <;> exact ⟨rfl, rfl⟩

/-- A store that fails is never taken for one that misses. A request ends in a store failure just
when one of its lookups fails: in the failure of that lookup, after which none is made. It comes to
a result only if all of them succeed, and to a bare status only if the store has said of all
candidates that they are missing, or has told the rule that asks for the status. Whichever lookup of
a request is made to fail, the request ends there. Clients are told that the service is
unavailable. -/
theorem storeFailure_not_missed (request : PageRequest) (store : σ) :
    let ended := (site.engine.handle request).run (Lookup.recorded RecordStore.answer) (store, [])
    let log := ended.2.2
    (site.engine.handle request).run RecordStore.answer store = (ended.1, ended.2.1) ∧
    (∃ told, log.head? = some ⟨.record (site.engine.pathOf request).key request.unpublished, told⟩) ∧
    ((∃ e, ended.1 = .error e) ↔ ∃ r ∈ log, ¬r.Succeeded) ∧
    (∀ e, ended.1 = .error e ↔
      ∃ before q, log = before ++ [⟨q, .error e⟩] ∧ ∀ r ∈ before, r.Succeeded) ∧
    (∀ result, ended.1 = .ok result → ∀ r ∈ log, r.Succeeded) ∧
    (∀ d, ended.1 = .ok (.ok (.status d)) →
      ((site.engine.pathOf request).RecordsMissed request.unpublished log ∨
        site.engine.RecordPassed request log) ∧
      ((d = .notFound ∧ (site.engine.pathOf request).RulesMissed site.engine.settings log) ∨
        ∃ rule : RedirectRule, rule.disposition = d ∧ rule.ToldIn log)) ∧
    (∀ n r e, log[n]? = some r →
      let failed := (site.engine.handle request).run
        (Lookup.recorded (Lookup.failingAfter e RecordStore.answer)) ((n, store), [])
      failed.1 = .error e ∧ failed.2.2 = log.take n ++ [⟨r.1, .error e⟩]) ∧
    ∀ (occasion : Occasion) (sent : Request) (e : StoreError), site.pageRequest sent = request →
      isReading sent.method → Probe.ofPath? sent.target.path = none → ended.1 = .error e →
      (site.servePage sent store).1 = .error (.storeUnavailable e) ∧
        (site.respond occasion sent store).1.status = 503 ∧
        (site.respond occasion sent store).1.body =
          if sent.method = "HEAD" then "" else (StatusText.of 503).html := by
  intro ended log
  have hprompt := site.engine.handle_prompt request
  have hended : ended = (_, _, _) := Lookup.run_recorded (site.engine.handle request) store []
  have hresult : ended.1 = ((site.engine.handle request).run RecordStore.answer store).1 :=
    congrArg Prod.fst hended
  have hlog : log = (site.engine.handle request).replies RecordStore.answer store :=
    congrArg (·.2.2) hended
  rw [hresult, hlog]
  refine ⟨congrArg (Prod.mk _) (congrArg (·.2.1) hended).symm, ⟨_, Engine.head?_replies_handle⟩,
    hprompt.exists_run_eq_error_iff store, hprompt.run_eq_error_iff store,
    fun _ => hprompt.succeeded_of_run_eq_ok, fun d => Engine.replies_of_handle_status,
    fun n r e hr => ?_, ?_⟩
  · obtain ⟨hfailed, hreplies⟩ := hprompt.run_failingAfter hr e
    rw [Lookup.run_recorded]
    exact ⟨hfailed, hreplies⟩
  · rintro occasion sent e rfl hreading hprobe herror
    have hserved := site.servePage_of_error hreading herror
    obtain ⟨hstatus, hbody⟩ := site.respond_of_failure occasion hreading hprobe hserved
    exact ⟨hserved, hstatus, hbody⟩

end Http.Site

namespace Outage

open Visibility (before engine noon)

def diskError : StoreError :=
  .query "disk I/O error"

instance : RecordStore (Nat × Store) where
  backend s := s.2.backend
  answer := Lookup.failingAfter diskError Store.answer

def site : Http.Site :=
  { engine }

def sent : Http.Request :=
  { target := ⟨"/guide/", none⟩ }

/-- The page is found, but not its ancestors. -/
theorem storeFailure_not_missed_guide :
    let ended := (engine.handle (site.pageRequest sent)).run (Lookup.recorded RecordStore.answer)
      ((1, Store.memory before), [])
    ended.1 = .error diskError ∧ ended.2.2.length = 2 ∧ (∃ r ∈ ended.2.2, ¬r.Succeeded) ∧
      (site.respond ⟨noon, "1"⟩ sent (1, Store.memory before)).1.status = 503 := by
  intro ended
  have herror : ended.1 = .error diskError := by decide +kernel
  obtain ⟨-, -, hfails, -, -, -, -, hanswered⟩ :=
    site.storeFailure_not_missed (site.pageRequest sent) (1, Store.memory before)
  have hunavailable := hanswered ⟨noon, "1"⟩ sent diskError rfl (by decide) (by decide) herror
  exact ⟨herror, by decide +kernel, hfails.mp ⟨_, herror⟩, hunavailable.2.1⟩

end Outage

end ContentServer
