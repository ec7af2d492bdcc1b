import ContentServer.Page.Assembly
import ContentServer.Path
import ContentServer.Record

namespace ContentServer

structure Settings where
  /-- The page extension, without its dot. -/
  extension : String := "html"
  defaultSlot : String := "text"
  /-- Follows the title of every page but the site root in browser titles. -/
  projectName : String := "Lectern"
  /-- The most wildcard redirects that are looked up for a request. -/
  maxRedirectProbes : UInt64 := 64
  deriving DecidableEq, Repr

structure Page where
  recordId : RecordId
  key : String
  parameters : List String
  title : String
  browserTitle : String
  text : PageText
  breadcrumbs : List Breadcrumb
  authors : List String
  media : List Media
  lastModified : Instant
  language : Option String
  noHeader : Bool
  noFooter : Bool
  suppressHeading : Bool
  languageLinks : Bool
  deriving DecidableEq, Repr

def plainTitle (title : String) : String :=
  Text.lift (fun cs => Text.trim (Html.stripTags cs)) title

def browserTitle (title : String) (isRoot : Bool) (projectName : String) : String :=
  if isRoot || projectName = "" then plainTitle title
  else plainTitle title ++ " | " ++ projectName

namespace Page

/-- Breadcrumbs from directives take the place of the page itself at the end of its trail. -/
def extendTrail (trail breadcrumbs : List Breadcrumb) : List Breadcrumb :=
  if breadcrumbs.isEmpty then trail else trail.dropLast ++ breadcrumbs

def assemble (record : Record) (parameters : List String) (assembly : Assembly)
    (trail : List Breadcrumb) (path : RequestPath) (settings : Settings) : Page :=
  let title := assembly.title.getD record.title
  { recordId := record.id
    key := record.key
    parameters
    title
    browserTitle := ContentServer.browserTitle title path.isRoot settings.projectName
    text := assembly.text
    breadcrumbs := extendTrail trail assembly.breadcrumbs
    authors := if assembly.authors.isEmpty then record.author.toList else assembly.authors
    media := assembly.media
    lastModified := assembly.lastUpdate.getD record.lastModified
    language := path.language
    noHeader := assembly.noHeader
    noFooter := assembly.noFooter
    suppressHeading := assembly.suppressHeading
    languageLinks := assembly.languageLinks }

def mainText (page : Page) (settings : Settings) : String :=
  page.text.main settings.defaultSlot

end Page

end ContentServer
