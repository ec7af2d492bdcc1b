import ContentServer.Text.Basic
import ContentServer.Text.Case
import ContentServer.Url

namespace ContentServer

inductive Segment where
  | literal (text : String)
  | directive (body : String)
  deriving DecidableEq, Repr

namespace Segment

def delimiter : List Char :=
  ['%', '%', '%']

def unifyBreaks : List Char → List Char
  | '\r' :: '\n' :: cs => '\n' :: unifyBreaks cs
  | '\r' :: cs => '\n' :: unifyBreaks cs
  | c :: cs => c :: unifyBreaks cs
  | [] => []

def alternate (inDirective : Bool) : List (List Char) → List Segment
  | [] => []
  | piece :: pieces =>
    (if inDirective then directive (String.ofList piece) else literal (String.ofList piece)) ::
      alternate (!inDirective) pieces

def split (content : List Char) : List Segment :=
  alternate false (Text.splitWord delimiter content)

def ofContent (content : String) : List Segment :=
  split (unifyBreaks content.toList)

end Segment

inductive Directive where
  | query (function : String) (arguments : List String)
  | slot (name : String)
  | table (definition : Option String)
  | comment
  | redirect (target : String)
  | unknown (raw : String)
  deriving DecidableEq, Repr

namespace Directive

/-- The trimmed lines of a body of several lines, or the words of one line; empty ones are left
out. -/
def tokenize (body : List Char) : List (List Char) :=
  let body := Text.trim body
  if '\n' ∈ body then ((body.splitOn '\n').map Text.trim).filter (! ·.isEmpty)
  else (body.splitOn ' ').filter (! ·.isEmpty)

/-- Joins the tokens of a quotation into one argument. The first list holds what an open quotation
has collected; the end of the tokens closes it. -/
def joinQuoted : Option (List Char) → List (List Char) → List (List Char)
  | none, [] => []
  | some text, [] => [text]
  | none, ('"' :: rest) :: tokens =>
    if rest.getLast? = some '"' then rest.dropLast :: joinQuoted none tokens
    else joinQuoted (some rest) tokens
  | none, token :: tokens => token :: joinQuoted none tokens
  | some text, token :: tokens =>
    if token.getLast? = some '"' then (text ++ ' ' :: token.dropLast) :: joinQuoted none tokens
    else joinQuoted (some (text ++ ' ' :: token)) tokens

/-- Replaces every lone star by all the parameters. -/
def expandStars (parameters arguments : List String) : List String :=
  arguments.flatMap fun argument => if argument = "*" then parameters else [argument]

inductive Keyword where
  | query
  | slot
  | table
  | comment
  | redirect
  deriving DecidableEq, Repr

def Keyword.spellings : List (String × Keyword) :=
  [("query", .query), ("abfrage", .query), ("slot", .slot), ("position", .slot), ("table", .table),
    ("tabelle", .table), ("comment", .comment), ("kommentar", .comment), ("#", .comment),
    ("redirect", .redirect), ("weiterleitung", .redirect)]

def Keyword.of? (token : String) : Option Keyword :=
  spellings.lookup (Text.lower token)

def isRedirectTarget (idna : Url.Idna) (target : String) : Bool :=
  match target.toList with
  | '/' :: '/' :: _ => false
  | '/' :: _ => true
  | _ => Url.isWeb idna target

def ofTokens? (idna : Url.Idna) (keyword : Keyword) (tokens : List (List Char))
    (parameters : List String) : Option Directive :=
  match keyword, tokens with
  | .query, function :: rest =>
    some (.query (String.ofList function)
      (expandStars parameters ((joinQuoted none rest).map String.ofList)))
  | .slot, name :: _ => some (.slot (String.ofList name))
  | .table, tokens => some (.table (tokens.head?.map String.ofList))
  | .comment, _ => some .comment
  | .redirect, target :: _ =>
    if isRedirectTarget idna (String.ofList target) then some (.redirect (String.ofList target))
    else none
  | _, [] => none

/-- Reads a directive body. What is none of the known directives is kept as it stands, but
trimmed. -/
def parse (idna : Url.Idna) (body : String) (parameters : List String) : Directive :=
  match tokenize body.toList with
  | [] => .unknown ""
  | keyword :: tokens =>
    ((Keyword.of? (String.ofList keyword)).bind fun keyword =>
        ofTokens? idna keyword tokens parameters).getD (.unknown (Text.lift Text.trim body))

end Directive

end ContentServer
