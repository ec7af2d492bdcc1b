import ContentServer.Html
import ContentServer.Page.Basic
import ContentServer.Time.Text

namespace ContentServer.Page

def crumbHtml (crumb : Breadcrumb) : String :=
  match crumb.href with
  | some href => "<li><a href=\"" ++ Html.escape href ++ "\">" ++ crumb.title ++ "</a></li>"
  | none => "<li>" ++ crumb.title ++ "</li>"

def trailHtml (trail : List Breadcrumb) : String :=
  if trail.isEmpty then ""
  else
    "<nav class=\"breadcrumbs\"><ol>" ++ String.join (trail.map crumbHtml) ++ "</ol></nav>\n"

def headHtml (page : Page) : String :=
  let opening :=
    match page.language with
    | some language => "<html lang=\"" ++ Html.escape language ++ "\">\n"
    | none => "<html>\n"
  opening ++ "<head>\n<meta charset=\"utf-8\">\n<title>" ++ Html.escape page.browserTitle ++
    "</title>\n</head>\n"

def headerHtml (page : Page) (settings : Settings) : String :=
  if page.noHeader then ""
  else "<header class=\"site-header\">" ++ Html.escape settings.projectName ++ "</header>\n"

def mainHtml (page : Page) (settings : Settings) : String :=
  let heading := if page.suppressHeading then "" else "<h1>" ++ page.title ++ "</h1>\n"
  "<main>\n" ++ heading ++ page.mainText settings ++ "\n</main>\n"

def asideHtml (slot : String × String) : String :=
  "<aside data-slot=\"" ++ Html.escape slot.1 ++ "\">\n" ++ slot.2 ++ "\n</aside>\n"

def asidesHtml (text : PageText) (settings : Settings) : String :=
  match text with
  | .single _ => ""
  | .slots texts =>
    String.join ((texts.entries.filter (·.1 != settings.defaultSlot)).map asideHtml)

def figureHtml (media : Media) : String :=
  let caption :=
    match media.caption with
    | some caption => "<figcaption>" ++ Html.escape caption ++ "</figcaption>"
    | none => ""
  "<figure><img src=\"" ++ Html.escape media.url ++ "\" alt=\"\">" ++ caption ++ "</figure>\n"

def authorsHtml (authors : List String) : String :=
  if authors.isEmpty then ""
  else " <span class=\"authors\">" ++ ", ".intercalate (authors.map Html.escape) ++ "</span>"

def footerHtml (page : Page) : String :=
  if page.noFooter then ""
  else
    "<footer class=\"site-footer\"><time datetime=\"" ++ page.lastModified.offsetText ++ "\">" ++
      page.lastModified.dateText ++ "</time>" ++ authorsHtml page.authors ++ "</footer>\n"

/-- The document. Titles and texts hold markup; everything else is escaped. -/
def document (page : Page) (settings : Settings) : String :=
  "<!DOCTYPE html>\n" ++ page.headHtml ++ "<body>\n" ++ page.headerHtml settings ++
    trailHtml page.breadcrumbs ++ page.mainHtml settings ++ asidesHtml page.text settings ++
    String.join (page.media.map figureHtml) ++ page.footerHtml ++ "</body>\n</html>\n"

end ContentServer.Page
