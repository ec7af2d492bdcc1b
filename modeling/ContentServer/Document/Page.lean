import ContentServer.Json.Struct
import ContentServer.Json.Value
import ContentServer.Page.Basic
import ContentServer.Time.Text

namespace ContentServer

def Json.optionalField {α : Type} (name : String) (write : α → Json) (a : Option α) :
    List (String × Json) :=
  a.toList.map fun a => (name, write a)

def Breadcrumb.toJson (crumb : Breadcrumb) : Json :=
  .object (("title", .text crumb.title) :: Json.optionalField "href" .text crumb.href)

def Media.toJson (media : Media) : Json :=
  .object (("url", .text media.url) :: Json.optionalField "caption" .text media.caption)

/-- One text, or an object with a field for each slot. -/
def PageText.toJson : PageText → Json
  | single text => .text text
  | slots texts => .object (texts.entries.map fun (name, text) => (name, .text text))

def Page.toJson (page : Page) : Json :=
  .object <|
    [("record_id", .int page.recordId.toInt),
      ("key", .text page.key),
      ("parameters", .texts page.parameters),
      ("title", .text page.title),
      ("browser_title", .text page.browserTitle),
      ("text", page.text.toJson),
      ("breadcrumbs", .list (page.breadcrumbs.map Breadcrumb.toJson)),
      ("authors", .texts page.authors),
      ("media", .list (page.media.map Media.toJson)),
      ("last_modified", .text page.lastModified.zuluText)] ++
    Json.optionalField "language" .text page.language ++
    [("no_header", .bool page.noHeader),
      ("no_footer", .bool page.noFooter),
      ("suppress_heading", .bool page.suppressHeading),
      ("language_links", .bool page.languageLinks)]

namespace Settings

open Json

structure Partial where
  extension : Option String := none
  defaultSlot : Option String := none
  projectName : Option String := none
  maxRedirectProbes : Option UInt64 := none

def fields : List (Member Partial) :=
  [.defaulted "extension" (·.extension) (fun s a => { s with extension := some a }) .string,
    .defaulted "default_slot" (·.defaultSlot) (fun s a => { s with defaultSlot := some a }) .string,
    .defaulted "project_name" (·.projectName) (fun s a => { s with projectName := some a }) .string,
    .defaulted "max_redirect_probes" (·.maxRedirectProbes)
      (fun s a => { s with maxRedirectProbes := some a }) .uint64]

def Partial.finish (s : Partial) : Settings :=
  let d : Settings := {}
  { extension := s.extension.getD d.extension
    defaultSlot := s.defaultSlot.getD d.defaultSlot
    projectName := s.projectName.getD d.projectName
    maxRedirectProbes := s.maxRedirectProbes.getD d.maxRedirectProbes }

def reader : Reader Settings :=
  .struct "Settings" fields {} fun s => .ok s.finish

def toJson (s : Settings) : Json :=
  .object
    [("extension", .text s.extension),
      ("default_slot", .text s.defaultSlot),
      ("project_name", .text s.projectName),
      ("max_redirect_probes", .int s.maxRedirectProbes.toNat)]

end Settings

end ContentServer
