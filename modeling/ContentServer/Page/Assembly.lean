import ContentServer.Page.Slots
import ContentServer.Table.Definition

namespace ContentServer

structure PageDetails where
  title : Option String := none
  breadcrumbs : List Breadcrumb := []
  authors : List String := []
  media : List Media := []
  noHeader : Bool := false
  noFooter : Bool := false
  suppressHeading : Bool := false
  languageLinks : Bool := false
  lastUpdate : Option Instant := none
  deriving DecidableEq, Repr

namespace PageDetails

/-- Adds the authors and media of a fragment, and takes over what else it sets. -/
def merge (details : PageDetails) (fragment : Fragment) : PageDetails where
  title := fragment.title.or details.title
  breadcrumbs := fragment.breadcrumbs.getD details.breadcrumbs
  authors := details.authors ++ fragment.authors
  media := details.media ++ fragment.media
  noHeader := fragment.noHeader.getD details.noHeader
  noFooter := fragment.noFooter.getD details.noFooter
  suppressHeading := details.suppressHeading
  languageLinks := fragment.languageLinks.getD details.languageLinks
  lastUpdate := fragment.lastUpdate.or details.lastUpdate

def mergeTable (details : PageDetails) (output : TableOutput) : PageDetails :=
  { details with
    title := some output.title
    breadcrumbs := output.breadcrumbs
    suppressHeading := true }

end PageDetails

structure Assembly extends PageDetails where
  text : PageText := default
  replaced : List SlotName := []
  deriving DecidableEq, Repr

structure Draft where
  slots : Slots := {}
  details : PageDetails := {}
  deriving DecidableEq, Repr

namespace Draft

def switch (d : Draft) (name : String) : Draft :=
  { d with slots := d.slots.switch name }

def pushLiteral (d : Draft) (html : List Char) : Draft :=
  { d with slots := d.slots.pushLiteral html }

def pushNotice (d : Draft) (message : String) : Draft :=
  { d with slots := d.slots.pushNotice message }

def apply (d : Draft) (fragment : Fragment) : Draft where
  slots := d.slots.apply fragment.text fragment.replace
  details := d.details.merge fragment

def applyTable (d : Draft) (output : TableOutput) : Draft where
  slots := d.slots.push output.html.toList
  details := d.details.mergeTable output

def finish (d : Draft) : Assembly where
  toPageDetails := d.details
  text := d.slots.settle.text
  replaced := d.slots.replaced

end Draft

end ContentServer
