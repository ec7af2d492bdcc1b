import ContentServer.Http.Message
import ContentServer.Text.Basic

namespace ContentServer.Http

structure MediaType where
  type : String
  subtype : String
  structure? : Option String := none
  deriving DecidableEq, Repr

namespace MediaType

inductive Place where
  | nameStart
  | name
  | valueStart
  | value
  | quoteStart
  | quote
  | afterQuote

def isQuotable (c : Char) : Bool :=
  0x20 ≤ c.toNat && c.toNat ≠ 0x7F

def Place.next? (c : Char) : Place → Option Place
  | nameStart => if c = ' ' then some nameStart else if isTokenChar c then some name else none
  | name => if c = '=' then some valueStart else if isTokenChar c then some name else none
  | valueStart => if c = '"' then some quoteStart else if isTokenChar c then some value else none
  | value => if c = ';' then some nameStart else if isTokenChar c then some value else none
  | quoteStart => if isQuotable c then some quote else none
  | quote => if c = '"' then some afterQuote else if isQuotable c then some quote else none
  | afterQuote => if c = ';' then some nameStart else if c = ' ' then some afterQuote else none

def Place.mayEnd : Place → Bool
  | nameStart | valueStart | value | afterQuote => true
  | name | quoteStart | quote => false

def areParameters (text : List Char) : Bool :=
  match text.foldlM (fun place c => Place.next? c place) Place.nameStart with
  | some place => place.mayEnd
  | none => false

/-- Splits off the structure behind the last plus sign that is not the first character. -/
def ofNames (type subtype : List Char) : MediaType :=
  match Text.cutLast? '+' subtype with
  | some (c :: before, after) =>
    ⟨String.ofList type, String.ofList (c :: before), some (String.ofList after)⟩
  | _ => ⟨String.ofList type, String.ofList subtype, none⟩

def parse? (text : String) : Option MediaType := do
  let (type, rest) ← Text.cutFirst? '/' (text.toList.map Char.toLower)
  let subtype := rest.takeWhile (· != ';')
  guard (!type.isEmpty && type.all isTokenChar && subtype.all isTokenChar)
  match rest.drop subtype.length with
  | [] => return ofNames type subtype
  | _ :: parameters =>
    guard (!subtype.isEmpty && areParameters parameters)
    return ofNames type subtype

end MediaType

inductive Representation where
  | html
  | json
  deriving DecidableEq, Repr

namespace Representation

def ofMediaType? (m : MediaType) : Option Representation :=
  if m = ⟨"application", "json", none⟩ then some json
  else if m.type = "text" && m.subtype = "html" then some html
  else none

/-- The first representation that the client accepts; whoever accepts none of them gets HTML. -/
def preferred (headers : Headers) : Representation :=
  match headers.text? "accept" with
  | none => html
  | some accept =>
    let candidates := (accept.toList.splitOn ',').map fun c => String.ofList (Text.trim c)
    (candidates.findSome? fun c => (MediaType.parse? c).bind ofMediaType?).getD html

end Representation

end ContentServer.Http
