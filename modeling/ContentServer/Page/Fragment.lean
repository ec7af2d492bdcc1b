import ContentServer.Assoc
import ContentServer.Record
import ContentServer.Time.Instant

namespace ContentServer

inductive PageText where
  | single (text : String)
  | slots (texts : Assoc String String)
  deriving DecidableEq, Repr

namespace PageText

instance : Inhabited PageText := ⟨single ""⟩

def slot? (text : PageText) (name : String) : Option String :=
  match text with
  | single _ => none
  | slots texts => texts.get? name

def main (text : PageText) (defaultSlot : String) : String :=
  match text with
  | single text => text
  | slots texts => (texts.get? defaultSlot).getD ""

end PageText

structure Media where
  url : String
  caption : Option String
  deriving DecidableEq, Repr

inductive FragmentText where
  | none
  | single (text : String)
  | slots (texts : Assoc String String)
  deriving DecidableEq, Repr

structure Fragment where
  text : FragmentText := .none
  title : Option String := none
  authors : List String := []
  media : List Media := []
  breadcrumbs : Option (List Breadcrumb) := none
  noHeader : Option Bool := none
  noFooter : Option Bool := none
  languageLinks : Option Bool := none
  lastUpdate : Option Instant := none
  /-- Should the fragment empty its slots first, and own them from then on? -/
  replace : Bool := false
  deriving DecidableEq, Repr

end ContentServer
