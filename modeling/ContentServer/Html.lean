import ContentServer.Text.Basic

namespace ContentServer.Html

def escapeChar (c : Char) : List Char :=
  match c with
  | '&' => "&amp;".toList
  | '<' => "&lt;".toList
  | '>' => "&gt;".toList
  | '"' => "&quot;".toList
  | '\'' => "&#39;".toList
  | c => [c]

def escape (text : String) : String :=
  Text.lift (·.flatMap escapeChar) text

def openingParagraph : List Char := "<p>".toList

def closingParagraph : List Char := "</p>".toList

/-- The blocks of a markup text: the pieces between blank lines that are not blank. -/
def blocks (markup : List Char) : List (List Char) :=
  ((Text.splitWord ['\n', '\n'] markup).map (Text.trimBy (· == '\n'))).filter
    fun block => !(Text.trim block).isEmpty

/-- A block that opens with a tag stands for itself; others become a paragraph. -/
def renderBlock (block : List Char) : List Char :=
  if (Text.trimStart block).head? = some '<' then block
  else openingParagraph ++ block ++ closingParagraph

def paragraphs (markup : String) : String :=
  Text.lift (fun cs => ['\n'].intercalate ((blocks cs).map renderBlock)) markup

/-- Removes every span from a `<` to the next `>`. A `<` that no `>` follows stays. -/
def stripTags (text : List Char) : List Char :=
  match text with
  | [] => []
  | c :: rest =>
    if c = '<' then
      match _h : Text.cutFirst? '>' rest with
      | some (_, after) => stripTags after
      | none => c :: stripTags rest
    else c :: stripTags rest
termination_by text.length
decreasing_by
  · have := Text.length_cutFirst?_lt _h
    simp only [List.length_cons]
    omega
  · simp
  · simp

end ContentServer.Html
