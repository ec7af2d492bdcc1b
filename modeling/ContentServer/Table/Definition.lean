import ContentServer.Html
import ContentServer.Json.Fault
import ContentServer.Json.Struct
import ContentServer.Record

namespace ContentServer

structure TableOutput where
  html : String
  title : String
  breadcrumbs : List Breadcrumb
  deriving DecidableEq, Repr

inductive TableError where
  | definitionMissing (name : String)
  | malformed (name message : String)
  | unreadable (name message : String)
  deriving DecidableEq, Repr

def TableError.message : TableError → String
  | definitionMissing name => s!"table definition '{name}' not found"
  | malformed name message => s!"table definition '{name}' is malformed: {message}"
  | unreadable name message => s!"failed to read table definition '{name}': {message}"

structure TableDefinition where
  title : String
  breadcrumb : Option String
  columns : List String
  rows : List (List String)
  deriving DecidableEq, Repr

namespace TableDefinition

open Json

structure Partial where
  title : Option String := none
  breadcrumb : Option (Option String) := none
  columns : Option (List String) := none
  rows : Option (List (List String)) := none

def fields : List (Member Partial) :=
  [.required "title" (·.title) (fun d a => { d with title := some a }) .string,
    .defaulted "breadcrumb" (·.breadcrumb) (fun d a => { d with breadcrumb := some a })
      (.nullable .string),
    .required "columns" (·.columns) (fun d a => { d with columns := some a }) (.list .string),
    .defaulted "rows" (·.rows) (fun d a => { d with rows := some a }) (.list (.list .string))]

def Partial.finish (d : Partial) : Except String TableDefinition :=
  match d.title, d.columns with
  | none, _ => .error "title"
  | _, none => .error "columns"
  | some title, some columns => .ok ⟨title, d.breadcrumb.getD none, columns, d.rows.getD []⟩

def reader : Reader TableDefinition :=
  .struct "TableDefinition" fields {} (·.finish)

def raggedRow? (width : Nat) (n : Nat) : List (List String) → Option (Nat × Nat)
  | [] => none
  | row :: rows => if row.length = width then raggedRow? width (n + 1) rows else some (n, row.length)

/-- Reads a definition, or tells what is wrong with the text. All rows must fill the columns. -/
def parse (text : List Char) : Except String TableDefinition :=
  match Reader.read reader (String.ofList text) with
  | .error fault => .error (fault.message text)
  | .ok d =>
    match raggedRow? d.columns.length 0 d.rows with
    | none => .ok d
    | some (n, cells) => .error s!"row {n} has {cells} cells, expected {d.columns.length}"

def headerCell (text : String) : String :=
  "<th>" ++ Html.escape text ++ "</th>"

def dataCell (text : String) : String :=
  "<td>" ++ Html.escape text ++ "</td>"

def rowHtml (row : List String) : String :=
  "<tr>" ++ String.join (row.map dataCell) ++ "</tr>\n"

def html (d : TableDefinition) : String :=
  "<table class=\"lectern-table\">\n<thead><tr>" ++ String.join (d.columns.map headerCell) ++
    "</tr></thead>\n<tbody>\n" ++ String.join (d.rows.map rowHtml) ++ "</tbody>\n</table>"

/-- The table with its title, and the breadcrumb for it, which is the title unless given. -/
def output (d : TableDefinition) : TableOutput :=
  ⟨d.html, d.title, [.plain (d.breadcrumb.getD d.title)]⟩

end TableDefinition

end ContentServer
