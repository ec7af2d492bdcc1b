import ContentServer.Proofs.Interpreter.Halting

namespace ContentServer

/-- What a successful directive contributes to a page: the fragment of a function, or a table. -/
inductive Contribution where
  | fragment (fragment : Fragment)
  | table (output : TableOutput)

namespace Contribution

/-- What is said about a page besides its text. A table always gives a title and breadcrumbs. -/
def said : Contribution → Fragment
  | fragment f => f
  | table output => { title := some output.title, breadcrumbs := some output.breadcrumbs }

def isTable : Contribution → Bool
  | fragment _ => false
  | table _ => true

def lastSet {α : Type} (field : Fragment → Option α) (contributions : List Contribution) :
    Option α :=
  (contributions.filterMap fun c => field c.said).getLast?

theorem lastSet_concat {α : Type} (field : Fragment → Option α) (contributions : List Contribution)
    (c : Contribution) :
    lastSet field (contributions ++ [c]) = (field c.said).or (lastSet field contributions) := by
  rw [lastSet, lastSet, List.filterMap_append, List.getLast?_append]
  cases hset : field c.said <;> simp [hset]

end Contribution

namespace PageDetails

open Contribution

/-- Authors and media one after another, of all else the last that is said, and the heading
suppressed if there is a table. -/
def ofContributions (contributions : List Contribution) : PageDetails where
  title := lastSet (·.title) contributions
  breadcrumbs := (lastSet (·.breadcrumbs) contributions).getD []
  authors := contributions.flatMap (·.said.authors)
  media := contributions.flatMap (·.said.media)
  noHeader := (lastSet (·.noHeader) contributions).getD false
  noFooter := (lastSet (·.noFooter) contributions).getD false
  suppressHeading := contributions.any (·.isTable)
  languageLinks := (lastSet (·.languageLinks) contributions).getD false
  lastUpdate := lastSet (·.lastUpdate) contributions

def contribute (details : PageDetails) : Contribution → PageDetails
  | .fragment f => details.merge f
  | .table output => details.mergeTable output

theorem ofContributions_concat (contributions : List Contribution) (c : Contribution) :
    ofContributions (contributions ++ [c]) = (ofContributions contributions).contribute c := by
  simp only [ofContributions, lastSet_concat, List.flatMap_append, List.any_append, Option.getD_or]
  cases c with
  | fragment f => simp [contribute, merge, said, isTable]
  | table output => simp [contribute, mergeTable, said, isTable]

end PageDetails

namespace Interpreter

variable (interpreter : Interpreter) (parameters : List String) (recordId : RecordId)

def fragment? (call : Call) : Option Fragment := do
  let function ← interpreter.registry.get? call.name
  (function call).toOption

def table? (name? : Option String) : Option TableOutput := do
  let name ← name?
  let tables ← interpreter.tables
  (tables name parameters).toOption

/-- What a segment contributes to a page, if it holds a query or table directive and that
succeeds. -/
def contribution? : Segment → Option Contribution
  | .literal _ => none
  | .directive body =>
    match Directive.parse interpreter.idna body parameters with
    | .query function arguments =>
      (interpreter.fragment? ⟨function, arguments, parameters, recordId⟩).map .fragment
    | .table definition =>
      (interpreter.table? parameters (definition.or (tableOfParameters? parameters))).map .table
    | _ => none

def contributions (content : String) : List Contribution :=
  (Segment.ofContent content).filterMap (interpreter.contribution? parameters recordId)

variable {interpreter parameters recordId} {draft next : Draft} {segment : Segment}

theorem details_call (draft : Draft) (c : Call) :
    (interpreter.call draft c).details =
      (interpreter.fragment? c).elim draft.details draft.details.merge := by
  rw [call, fragment?]
  cases interpreter.registry.get? c.name with
  | none => rfl
  | some function =>
    dsimp only
    cases hcall : function c with
    | ok fragment => simp [hcall, Except.toOption, Draft.apply]
    | error e => simp [hcall, Except.toOption, Draft.pushNotice]

theorem details_renderTable {name? : Option String}
    (h : interpreter.renderTable parameters draft name? = .ok next) :
    next.details =
      (interpreter.table? parameters name?).elim draft.details draft.details.mergeTable := by
  unfold renderTable at h
  split at h
  · cases h
  · next htables =>
    cases h
    simp [table?, htables, Draft.pushNotice]
  · next tables htables =>
    split at h
    · next output houtput =>
      cases h
      simp [table?, htables, houtput, Except.toOption, Draft.applyTable]
    · cases h
    · next e _ herror =>
      cases h
      simp [table?, htables, herror, Except.toOption, Draft.pushNotice]

theorem details_step (h : interpreter.step parameters recordId draft segment = .ok next) :
    next.details =
      (interpreter.contribution? parameters recordId segment).elim draft.details
        draft.details.contribute := by
  cases segment with
  | literal text =>
    cases h
    rfl
  | directive body =>
    rw [step] at h
    rw [contribution?]
    cases hparse : Directive.parse interpreter.idna body parameters with
    | query function arguments =>
      rw [hparse] at h
      cases h
      rw [details_call]
      dsimp only
      rw [Option.elim_map]
      rfl
    | table definition =>
      rw [hparse, execute] at h
      rw [details_renderTable h]
      dsimp only
      rw [Option.elim_map]
      rfl
    | slot name =>
      rw [hparse] at h
      cases h
      rfl
    | comment =>
      rw [hparse] at h
      cases h
      rfl
    | redirect target =>
      rw [hparse] at h
      cases h
    | unknown raw =>
      rw [hparse] at h
      cases h
      rfl

theorem details_run {segments : List Segment} {last : Draft}
    (h : interpreter.run parameters recordId segments draft = .ok last) {before : List Contribution}
    (hbefore : draft.details = .ofContributions before) :
    last.details =
      .ofContributions (before ++ segments.filterMap (interpreter.contribution? parameters recordId)) := by
  induction segments generalizing draft before with
  | nil =>
    cases h
    rw [List.filterMap_nil, List.append_nil, hbefore]
  | cons first rest ih =>
    rw [run_cons] at h
    cases hstep : interpreter.step parameters recordId draft first with
    | error halt =>
      rw [hstep] at h
      cases h
    | ok next =>
      rw [hstep] at h
      have hnext := details_step hstep
      cases hfirst : interpreter.contribution? parameters recordId first with
      | none =>
        rw [hfirst, hbefore] at hnext
        rw [List.filterMap_cons_none hfirst]
        exact ih h hnext
      | some c =>
        rw [hfirst, hbefore] at hnext
        rw [List.filterMap_cons_some hfirst, List.append_cons]
        exact ih h (hnext.trans (PageDetails.ofContributions_concat before c).symm)

theorem exists_run_of_interpret_eq_page {content : String} {assembly : Assembly}
    (h : interpreter.interpret content parameters recordId = .ok (.page assembly)) :
    ∃ last, interpreter.run parameters recordId (Segment.ofContent content) {} = .ok last ∧
      assembly = last.finish := by
  rw [interpret] at h
  cases hrun : interpreter.run parameters recordId (Segment.ofContent content) {} with
  | ok last =>
    rw [hrun] at h
    cases h
    exact ⟨last, rfl, rfl⟩
  | error halt =>
    rw [hrun] at h
    cases halt <;> cases h

/-- What a page says besides its text is what the functions and tables of its content said, merged
in their order. A segment that contributes nothing changes nothing of it, wherever it stands. -/
theorem interpret_details {content : String} {assembly : Assembly}
    (h : interpreter.interpret content parameters recordId = .ok (.page assembly)) :
    assembly.toPageDetails =
      .ofContributions (interpreter.contributions parameters recordId content) ∧
      ∀ segment draft next, interpreter.contribution? parameters recordId segment = none →
        interpreter.step parameters recordId draft segment = .ok next →
          next.details = draft.details := by
  refine ⟨?_, fun segment draft next hnone hstep => ?_⟩
  · obtain ⟨last, hrun, rfl⟩ := exists_run_of_interpret_eq_page h
    have hempty : ({} : Draft).details = .ofContributions [] := rfl
    exact details_run hrun hempty
  · rw [details_step hstep, hnone, Option.elim_none]

def credits : DirectiveFunction := fun call =>
  .ok { title := some "Credits", authors := call.arguments, noHeader := some true }

def desk : Interpreter where
  registry := Registry.empty.register "credits" credits
  tables := some fun name _ =>
    if name = "prices" then .ok ⟨"<table></table>", "Prices", [.plain "Prices"]⟩
    else .error (.malformed name "no title")

def menu : String :=
  "%%%query credits Ada%%%Tea%%%slot side%%%%%%table prices%%%%%%table broken%%%%%%query nope%%%%%%# Bo%%%"

theorem interpret_details_menu : ∃ assembly, desk.interpret menu [] 1 = .ok (.page assembly) ∧
    assembly.toPageDetails = {
      title := some "Prices", breadcrumbs := [.plain "Prices"], authors := ["Ada"], noHeader := true,
      suppressHeading := true } := by
  have hok : (desk.run [] 1 (Segment.ofContent menu) {}).isOk := by decide +kernel
  obtain ⟨assembly, hpage⟩ := interpret_eq_page_iff.mpr (exists_eq_ok_of_isOk hok)
  have hdetails := (interpret_details hpage).1
  exact ⟨assembly, hpage, hdetails.trans (by decide +kernel)⟩

end Interpreter

end ContentServer
