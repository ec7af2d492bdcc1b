import ContentServer.Directive.Basic
import ContentServer.Directive.Registry
import ContentServer.Page.Assembly

namespace ContentServer

inductive Halt where
  | redirect (target : String)
  | tableMissing (definition : Option String)
  deriving DecidableEq, Repr

inductive Interpretation where
  | page (assembly : Assembly)
  | redirect (target : String)
  deriving DecidableEq, Repr

structure TableMissing where
  definition : Option String
  deriving DecidableEq, Repr

def TableMissing.message (missing : TableMissing) : String :=
  match missing.definition with
  | some definition => "table definition missing: " ++ definition
  | none => "table definition missing"

/-- The functions, the renderer of literals, and the tables if there are any: a definition is
rendered by its name, with what the key of the record captured. -/
structure Interpreter where
  registry : Registry
  render : String → String := Html.paragraphs
  tables : Option (String → List String → Except TableError TableOutput) := none
  idna : Url.Idna := .asWritten

namespace Interpreter

/-- The last parameter, or the one before it if the last is a star. -/
def tableOfParameters? (parameters : List String) : Option String :=
  match parameters.reverse with
  | [] => none
  | last :: before => if last = "*" then before.head? else some last

variable (interpreter : Interpreter)

def call (draft : Draft) (call : Call) : Draft :=
  match interpreter.registry.get? call.name with
  | none => draft.pushNotice ("Unknown function: " ++ call.name)
  | some function =>
    match function call with
    | .ok fragment => draft.apply fragment
    | .error e => draft.pushNotice s!"Function {call.name} failed: {e.message}"

def renderTable (parameters : List String) (draft : Draft) (name? : Option String) :
    Except Halt Draft :=
  match name?, interpreter.tables with
  | none, _ => .error (.tableMissing none)
  | some _, none => .ok (draft.pushNotice "Tables are not available")
  | some name, some tables =>
    match tables name parameters with
    | .ok output => .ok (draft.applyTable output)
    | .error (.definitionMissing missing) => .error (.tableMissing (some missing))
    | .error e => .ok (draft.pushNotice s!"Table {name} failed: {e.message}")

def execute (parameters : List String) (recordId : RecordId) (draft : Draft) :
    Directive → Except Halt Draft
  | .query function arguments =>
    .ok (interpreter.call draft ⟨function, arguments, parameters, recordId⟩)
  | .slot name => .ok (draft.switch name)
  | .table definition =>
    interpreter.renderTable parameters draft (definition.or (tableOfParameters? parameters))
  | .comment => .ok draft
  | .redirect target => .error (.redirect target)
  | .unknown raw =>
    .ok (draft.pushNotice (if raw = "" then "Empty directive" else "Unknown directive: " ++ raw))

def step (parameters : List String) (recordId : RecordId) (draft : Draft) :
    Segment → Except Halt Draft
  | .literal text => .ok (draft.pushLiteral (interpreter.render text).toList)
  | .directive body =>
    interpreter.execute parameters recordId draft (Directive.parse interpreter.idna body parameters)

def run (parameters : List String) (recordId : RecordId) (segments : List Segment) (draft : Draft) :
    Except Halt Draft :=
  segments.foldlM (interpreter.step parameters recordId) draft

def interpret (content : String) (parameters : List String) (recordId : RecordId) :
    Except TableMissing Interpretation :=
  match interpreter.run parameters recordId (Segment.ofContent content) {} with
  | .ok draft => .ok (.page draft.finish)
  | .error (.redirect target) => .ok (.redirect target)
  | .error (.tableMissing definition) => .error ⟨definition⟩

end Interpreter

end ContentServer
