import ContentServer.Html
import ContentServer.Page.Fragment
import ContentServer.Record
import ContentServer.Text.Case
import ContentServer.Time.Format

namespace ContentServer

/-- A call as a directive makes it: the name as written, the arguments, the parameters that the key
of the record captured, and the record. -/
structure Call where
  name : String
  arguments : List String
  parameters : List String
  recordId : RecordId
  deriving DecidableEq, Repr

inductive FunctionError where
  | invalidArguments (reason : String)
  | failed (reason : String)
  deriving DecidableEq, Repr

def FunctionError.message : FunctionError → String
  | invalidArguments reason => "invalid arguments: " ++ reason
  | failed reason => reason

abbrev DirectiveFunction := Call → Except FunctionError Fragment

structure Registry where
  functions : Assoc String DirectiveFunction

namespace Registry

def empty : Registry :=
  ⟨∅⟩

def register (registry : Registry) (name : String) (function : DirectiveFunction) : Registry :=
  ⟨registry.functions.insert (Text.lower name) function⟩

def get? (registry : Registry) (name : String) : Option DirectiveFunction :=
  registry.functions.get? (Text.lower name)

def contains (registry : Registry) (name : String) : Bool :=
  (registry.get? name).isSome

def names (registry : Registry) : List String :=
  registry.functions.keys

def parameters : DirectiveFunction := fun call =>
  .ok { text := .single (Html.escape ("/".intercalate call.arguments)) }

def today (now : Instant) : DirectiveFunction := fun call =>
  let format := if call.arguments.isEmpty then "%Y-%m-%d" else " ".intercalate call.arguments
  match Time.Format.format? format now with
  | some text => .ok { text := .single text }
  | none => .error (.invalidArguments s!"invalid date format '{format}'")

def title : DirectiveFunction := fun call =>
  if call.arguments.isEmpty then .error (.invalidArguments "title requires at least one word")
  else .ok { title := some (" ".intercalate call.arguments) }

def builtins (now : Instant) : Registry :=
  ((empty.register "parameters" parameters).register "today" (today now)).register "title" title

end Registry

end ContentServer
