import ContentServer.Path
import ContentServer.Text.Case

namespace ContentServer

inductive CanonicalPolicy where
  | requireSlash
  | requireExtension
  | requireNeither
  deriving DecidableEq, Repr, Inhabited

namespace CanonicalPolicy

def name : CanonicalPolicy → String
  | requireSlash => "slash"
  | requireExtension => "extension"
  | requireNeither => "neither"

def documentName : CanonicalPolicy → String
  | requireSlash => "require-slash"
  | requireExtension => "require-extension"
  | requireNeither => "require-neither"

def all : List CanonicalPolicy :=
  [requireSlash, requireExtension, requireNeither]

def ofDocumentName? (text : String) : Option CanonicalPolicy :=
  all.find? (·.documentName == text)

def ofName? (text : String) : Option CanonicalPolicy :=
  let lowered := Text.lowerAscii text
  all.find? fun policy => policy.name == lowered || policy.documentName == lowered

def unknownMessage (text : String) : String :=
  s!"unknown canonical policy '{Text.lowerAscii text}'"

def requiredForm : CanonicalPolicy → SuffixForm
  | requireSlash => .slash
  | requireExtension => .extension
  | requireNeither => .bare

theorem ofName?_name (policy : CanonicalPolicy) : ofName? policy.name = some policy := by
  cases policy <;> decide

theorem ofDocumentName?_documentName (policy : CanonicalPolicy) :
    ofDocumentName? policy.documentName = some policy := by
  cases policy <;> decide

end CanonicalPolicy

namespace RequestPath

/-- The path as `policy` wants it; the site root has only one form. -/
def canonical (path : RequestPath) (policy : CanonicalPolicy) (extension : String) : String :=
  if path.isRoot then "/" else
    match policy, path.language with
    | .requireSlash, _ => path.key ++ "/"
    | .requireExtension, some language => path.key ++ "." ++ extension ++ "." ++ language
    | .requireExtension, none => path.key ++ "." ++ extension
    | .requireNeither, _ => path.key

/-- Where a request must be sent on to, with its query; `none` if its suffix is the required one. -/
def enforce (path : RequestPath) (policy : CanonicalPolicy) (extension : String)
    (query : Option String) : Option String :=
  if path.isRoot || path.suffix = policy.requiredForm then none
  else
    let target := path.canonical policy extension
    match query with
    | some query => some (if query = "" then target else target ++ "?" ++ query)
    | none => some target

end RequestPath

end ContentServer
