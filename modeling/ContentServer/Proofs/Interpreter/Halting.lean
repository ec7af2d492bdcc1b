import ContentServer.Interpreter
import ContentServer.Table.Directory

namespace ContentServer

def Halt.outcome : Halt → Except TableMissing Interpretation
  | redirect target => .ok (.redirect target)
  | tableMissing definition => .error ⟨definition⟩

theorem TableFile.read_ne_missing (file : TableFile) (name missing : String) :
    file.read name ≠ .error (.definitionMissing missing) := by
  cases file with
  | directory modified => exact nofun
  | file modified content =>
    rw [TableFile.read]
    split
    · exact nofun
    · next text _ => cases TableDefinition.parse text <;> exact nofun

theorem TableDirectory.missing_eq_of_find {directory : TableDirectory} {name missing : String}
    (h : directory.find name = .error (.definitionMissing missing)) : missing = name := by
  rw [TableDirectory.find] at h
  split at h
  · cases h
  · split at h
    · cases h
    · cases h
      rfl

theorem TableDirectory.missing_eq {directory : TableDirectory} {name missing : String}
    (h : directory.render name = .error (.definitionMissing missing)) : missing = name := by
  rw [TableDirectory.render] at h
  split at h
  · cases hfind : directory.find name with
    | error e =>
      rw [hfind] at h
      cases h
      exact missing_eq_of_find hfind
    | ok file =>
      cases hread : file.read name with
      | ok definition => simp [hfind, hread, bind, Except.bind, pure, Except.pure] at h
      | error e =>
        have he : e = .definitionMissing missing := by
          simpa [hfind, hread, bind, Except.bind] using h
        exact absurd (he ▸ hread) (file.read_ne_missing name missing)
  · cases h
    rfl

namespace Interpreter

/-- The directives that halt the interpretation: redirects, tables without a name, and tables whose
definition the table subsystem misses. -/
inductive Halts (interpreter : Interpreter) (parameters : List String) : Directive → Halt → Prop
  | redirect (target : String) : Halts interpreter parameters (.redirect target) (.redirect target)
  | unnamed (hname : tableOfParameters? parameters = none) :
      Halts interpreter parameters (.table none) (.tableMissing none)
  | missing {definition : Option String} {name missing : String}
      {tables : String → List String → Except TableError TableOutput}
      (hname : definition.or (tableOfParameters? parameters) = some name)
      (htables : interpreter.tables = some tables)
      (hmissing : tables name parameters = .error (.definitionMissing missing)) :
      Halts interpreter parameters (.table definition) (.tableMissing (some missing))

def HaltsAt (interpreter : Interpreter) (parameters : List String) (segment : Segment) (halt : Halt) :
    Prop :=
  ∃ body, segment = .directive body ∧
    interpreter.Halts parameters (Directive.parse interpreter.idna body parameters) halt

def Passes (interpreter : Interpreter) (parameters : List String) (segment : Segment) : Prop :=
  ∀ halt, ¬interpreter.HaltsAt parameters segment halt

/-- A table subsystem that misses a definition names the one that it was asked for. -/
def NamesMissing (interpreter : Interpreter) : Prop :=
  ∀ tables, interpreter.tables = some tables →
    ∀ name parameters missing, tables name parameters = .error (.definitionMissing missing) →
      missing = name

variable {interpreter : Interpreter} {parameters : List String} {recordId : RecordId} {draft : Draft}
  {halt : Halt} {segment : Segment} {segments : List Segment}

theorem namesMissing_of_directory {directory : TableDirectory}
    (h : interpreter.tables = some fun name _ => directory.render name) :
    interpreter.NamesMissing := by
  intro tables htables name parameters missing hmissing
  obtain rfl := Option.some.inj (h.symm.trans htables)
  exact TableDirectory.missing_eq hmissing

theorem Halts.eq_tableMissing (hnames : interpreter.NamesMissing) {definition : Option String}
    (h : interpreter.Halts parameters (.table definition) halt) :
    halt = .tableMissing (definition.or (tableOfParameters? parameters)) := by
  cases h with
  | unnamed hname => rw [hname, Option.or_none]
  | missing hname htables hmissing => rw [hname, hnames _ htables _ _ _ hmissing]

theorem exists_eq_ok_of_isOk {ε α : Type} {result : Except ε α} (h : result.isOk) :
    ∃ a, result = .ok a := by
  cases result with
  | ok a => exact ⟨a, rfl⟩
  | error e => cases h

theorem renderTable_eq_error_iff {definition : Option String} :
    interpreter.renderTable parameters draft (definition.or (tableOfParameters? parameters)) =
      .error halt ↔
      interpreter.Halts parameters (.table definition) halt := by
  constructor
  · intro h
    unfold renderTable at h
    split at h
    · next hname =>
      obtain ⟨rfl, hparameters⟩ := Option.or_eq_none_iff.mp hname
      cases h
      exact .unnamed hparameters
    · cases h
    · next name tables hname htables =>
      split at h
      · cases h
      · next missing hmissing =>
        cases h
        exact .missing hname htables hmissing
      · cases h
  · intro h
    cases h with
    | unnamed hname =>
      rw [hname]
      rfl
    | missing hname htables hmissing => simp only [renderTable, hname, htables, hmissing]

theorem execute_eq_error_iff {directive : Directive} :
    interpreter.execute parameters recordId draft directive = .error halt ↔
      interpreter.Halts parameters directive halt := by
  cases directive with
  | table definition => exact renderTable_eq_error_iff
  | redirect target =>
    constructor
    · rintro ⟨⟩
      exact .redirect target
    · rintro ⟨⟩
      rfl
  | query function arguments => exact ⟨nofun, nofun⟩
  | slot name => exact ⟨nofun, nofun⟩
  | comment => exact ⟨nofun, nofun⟩
  | unknown raw => exact ⟨nofun, nofun⟩

theorem step_eq_error_iff :
    interpreter.step parameters recordId draft segment = .error halt ↔
      interpreter.HaltsAt parameters segment halt := by
  cases segment with
  | literal text => exact ⟨nofun, nofun⟩
  | directive body =>
    rw [step, execute_eq_error_iff]
    constructor
    · exact fun h => ⟨body, rfl, h⟩
    · rintro ⟨_, ⟨⟩, h⟩
      exact h

theorem passes_literal (text : String) : interpreter.Passes parameters (.literal text) := by
  rintro halt ⟨_, ⟨⟩, _⟩

theorem passes_iff :
    interpreter.Passes parameters segment ↔
      ∃ next, interpreter.step parameters recordId draft segment = .ok next := by
  cases hstep : interpreter.step parameters recordId draft segment with
  | ok next =>
    refine iff_of_true (fun halt h => ?_) ⟨next, rfl⟩
    rw [← step_eq_error_iff, hstep] at h
    cases h
  | error halt =>
    refine iff_of_false (fun h => h halt (step_eq_error_iff.mp hstep)) ?_
    rintro ⟨_, ⟨⟩⟩

theorem run_cons (segment : Segment) (segments : List Segment) (draft : Draft) :
    interpreter.run parameters recordId (segment :: segments) draft =
      (interpreter.step parameters recordId draft segment).bind
        (interpreter.run parameters recordId segments) :=
  rfl

theorem run_eq_error_iff :
    interpreter.run parameters recordId segments draft = .error halt ↔
      ∃ before segment after, segments = before ++ segment :: after ∧
        (∀ s ∈ before, interpreter.Passes parameters s) ∧
          interpreter.HaltsAt parameters segment halt := by
  induction segments generalizing draft with
  | nil =>
    refine ⟨nofun, ?_⟩
    rintro ⟨before, segment, after, hnil, -⟩
    exact absurd hnil (List.append_ne_nil_of_right_ne_nil before (List.cons_ne_nil _ _)).symm
  | cons first rest ih =>
    rw [run_cons]
    cases hstep : interpreter.step parameters recordId draft first with
    | error found =>
      have hfirst : interpreter.HaltsAt parameters first found := step_eq_error_iff.mp hstep
      constructor
      · rintro ⟨⟩
        exact ⟨[], first, rest, rfl, nofun, hfirst⟩
      · rintro ⟨before, segment, after, hall, hbefore, hhalts⟩
        obtain ⟨rfl, hhead⟩ | ⟨middle, rfl, -⟩ := List.cons_eq_append_iff.mp hall
        · obtain ⟨rfl, -⟩ := List.cons.inj hhead
          rw [← step_eq_error_iff, hstep] at hhalts
          exact hhalts
        · exact absurd hfirst (hbefore first List.mem_cons_self found)
    | ok next =>
      have hfirst : interpreter.Passes parameters first := passes_iff.mpr ⟨next, hstep⟩
      have hrest : interpreter.run parameters recordId rest next = .error halt ↔ _ := ih
      refine hrest.trans ⟨?_, ?_⟩
      · rintro ⟨before, segment, after, rfl, hbefore, hhalts⟩
        exact ⟨first :: before, segment, after, rfl, List.forall_mem_cons.mpr ⟨hfirst, hbefore⟩,
          hhalts⟩
      · rintro ⟨before, segment, after, hall, hbefore, hhalts⟩
        obtain ⟨rfl, hhead⟩ | ⟨middle, rfl, htail⟩ := List.cons_eq_append_iff.mp hall
        · obtain ⟨rfl, -⟩ := List.cons.inj hhead
          exact absurd hhalts (hfirst halt)
        · exact ⟨middle, segment, after, htail, (List.forall_mem_cons.mp hbefore).2, hhalts⟩

theorem exists_run_iff :
    (∃ last, interpreter.run parameters recordId segments draft = .ok last) ↔
      ∀ s ∈ segments, interpreter.Passes parameters s := by
  induction segments generalizing draft with
  | nil => exact iff_of_true ⟨draft, rfl⟩ nofun
  | cons first rest ih =>
    rw [run_cons, List.forall_mem_cons]
    cases hstep : interpreter.step parameters recordId draft first with
    | error found =>
      have hfirst : interpreter.HaltsAt parameters first found := step_eq_error_iff.mp hstep
      exact iff_of_false (fun ⟨_, h⟩ => nomatch h) fun h => h.1 found hfirst
    | ok next => exact ih.trans (and_iff_right (passes_iff.mpr ⟨next, hstep⟩)).symm

theorem interpret_of_run_eq_error {content : String}
    (h : interpreter.run parameters recordId (Segment.ofContent content) {} = .error halt) :
    interpreter.interpret content parameters recordId = halt.outcome := by
  rw [interpret, h]
  cases halt <;> rfl

theorem interpret_eq_page_iff {content : String} :
    (∃ assembly, interpreter.interpret content parameters recordId = .ok (.page assembly)) ↔
      ∃ last, interpreter.run parameters recordId (Segment.ofContent content) {} = .ok last := by
  rw [interpret]
  cases interpreter.run parameters recordId (Segment.ofContent content) {} with
  | ok last => exact iff_of_true ⟨last.finish, rfl⟩ ⟨last, rfl⟩
  | error halt => cases halt <;> exact iff_of_false (fun ⟨_, h⟩ => nomatch h) fun ⟨_, h⟩ => nomatch h

/-- The first directive that halts decides what becomes of a content, whatever follows it. A content
becomes a page exactly if no directive halts. -/
theorem interpret_first_halt (interpreter : Interpreter) (content : String)
    (parameters : List String) (recordId : RecordId) :
    (∀ before segment after halt, Segment.ofContent content = before ++ segment :: after →
      (∀ s ∈ before, interpreter.Passes parameters s) →
        interpreter.HaltsAt parameters segment halt →
      interpreter.interpret content parameters recordId = halt.outcome ∧
      (interpreter.NamesMissing → ∀ body definition, segment = .directive body →
        Directive.parse interpreter.idna body parameters = .table definition →
        interpreter.interpret content parameters recordId =
          .error ⟨definition.or (tableOfParameters? parameters)⟩) ∧
      ∀ other rest, Segment.ofContent other = before ++ segment :: rest →
        interpreter.interpret other parameters recordId =
          interpreter.interpret content parameters recordId) ∧
    ((∃ assembly, interpreter.interpret content parameters recordId = .ok (.page assembly)) ↔
      ∀ s ∈ Segment.ofContent content, interpreter.Passes parameters s) := by
  refine ⟨fun before segment after halt hcontent hbefore hhalts => ?_,
    interpret_eq_page_iff.trans exists_run_iff⟩
  have houtcome : ∀ text rest, Segment.ofContent text = before ++ segment :: rest →
      interpreter.interpret text parameters recordId = halt.outcome := fun text rest htext =>
    interpret_of_run_eq_error (run_eq_error_iff.mpr ⟨before, segment, rest, htext, hbefore, hhalts⟩)
  have hresult := houtcome content after hcontent
  refine ⟨hresult, ?_, fun other rest hother => (houtcome other rest hother).trans hresult.symm⟩
  rintro hnames body definition rfl htable
  obtain ⟨_, ⟨⟩, hhalt⟩ := hhalts
  rw [htable] at hhalt
  rw [hresult, hhalt.eq_tableMissing hnames]
  rfl

def bare : Interpreter :=
  { registry := .empty, tables := some fun name _ => TableDirectory.render ∅ name }

/-- A function that is unknown does not halt the interpretation, and the table that is missing comes
before the redirect. -/
theorem interpret_first_halt_bare :
    bare.interpret "Hi %%%query nope%%% there %%%table prices%%%" [] 1 = .error ⟨some "prices"⟩ ∧
      bare.interpret "Hi %%%query nope%%% there %%%table prices%%% or %%%redirect /shop/%%%" [] 1 =
        bare.interpret "Hi %%%query nope%%% there %%%table prices%%%" [] 1 ∧
      (∃ assembly, bare.interpret "Hi %%%query nope%%% there" [] 1 = .ok (.page assembly)) := by
  have hcontent : Segment.ofContent "Hi %%%query nope%%% there %%%table prices%%%" =
      [.literal "Hi ", .directive "query nope", .literal " there "] ++
        .directive "table prices" :: [.literal ""] := by decide +kernel
  have hother :
      Segment.ofContent "Hi %%%query nope%%% there %%%table prices%%% or %%%redirect /shop/%%%" =
      [.literal "Hi ", .directive "query nope", .literal " there "] ++
        .directive "table prices" :: [.literal " or ", .directive "redirect /shop/", .literal ""] := by
    decide +kernel
  have hpage : Segment.ofContent "Hi %%%query nope%%% there" =
      [.literal "Hi ", .directive "query nope", .literal " there"] := by decide +kernel
  have hok : (bare.step [] 1 {} (.directive "query nope")).isOk := by decide +kernel
  have hquery := passes_iff.mpr (exists_eq_ok_of_isOk hok)
  have hbefore : ∀ s ∈ [Segment.literal "Hi ", .directive "query nope", .literal " there "],
      bare.Passes [] s := by
    simp [hquery, passes_literal]
  have hparse : Directive.parse bare.idna "table prices" [] = .table (some "prices") := by
    decide +kernel
  have hhalts : bare.HaltsAt [] (.directive "table prices") (.tableMissing (some "prices")) :=
    ⟨_, rfl, hparse ▸ .missing rfl rfl rfl⟩
  obtain ⟨-, hname, hsame⟩ :=
    (interpret_first_halt bare _ [] 1).1 _ _ _ _ hcontent hbefore hhalts
  refine ⟨hname (namesMissing_of_directory rfl) _ _ rfl hparse, hsame _ _ hother, ?_⟩
  rw [(interpret_first_halt bare _ [] 1).2, hpage]
  simp [hquery, passes_literal]

end Interpreter

end ContentServer
