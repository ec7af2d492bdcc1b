import ContentServer.Text.Basic

namespace ContentServer.Http

def isTokenChar (c : Char) : Bool :=
  c.isAlphanum || "!#$%&'*+-.^_`|~".toList.contains c

def isToken (text : String) : Bool :=
  text ≠ "" && text.toList.all isTokenChar

/-- May a header have this value? Tabs are the only controls in it. -/
def isHeaderValue (value : String) : Bool :=
  value.toList.all fun c => c = '\t' || (0x20 ≤ c.toNat && c.toNat ≠ 0x7F)

abbrev Headers := List (String × String)

def Headers.text? (headers : Headers) (name : String) : Option String :=
  (headers.lookup name).filter fun value => isHeaderValue value && value.toList.all (·.toNat < 0x80)

structure Target where
  path : String
  query : Option String := none
  deriving DecidableEq, Repr

namespace Target

def afterAuthority (target : List Char) : List Char :=
  match Text.splitWord [':', '/', '/'] target with
  | _ :: rest :: others =>
    ([':', '/', '/'].intercalate (rest :: others)).dropWhile fun c => c != '/' && c != '?'
  | _ => target

/-- Reads a target, which may be absolute. A fragment is left out, and an empty path is the root. -/
def parse (target : String) : Target :=
  let whole := target.toList.takeWhile (· != '#')
  let relative := if whole.head? == some '/' then whole else afterAuthority whole
  let path := relative.takeWhile (· != '?')
  { path := if path.isEmpty then "/" else String.ofList path
    query := (Text.cutFirst? '?' relative).map fun (_, query) => String.ofList query }

end Target

structure Request where
  method : String := "GET"
  target : Target
  headers : Headers := []
  deriving DecidableEq, Repr

structure Response where
  status : UInt16
  headers : Headers := []
  body : String := ""
  deriving DecidableEq, Repr

namespace Response

def addHeaders (response : Response) (headers : Headers) : Response :=
  { response with headers := response.headers ++ headers }

def withLength (response : Response) : Response :=
  response.addHeaders [("content-length", toString response.body.utf8ByteSize)]

def withoutBody (response : Response) : Response :=
  { response with body := "" }

end Response

def headerOfLine? (line : String) : Option (String × String) :=
  (Text.cutFirst? ':' line.toList).bind fun (name, value) =>
    let name := String.ofList (name.map Char.toLower)
    let value := String.ofList (Text.trim value)
    if isToken name && isHeaderValue value then some (name, value) else none

/-- Reads the lines above the empty one. Header lines that make no sense are left out. -/
def Request.ofLines? : List String → Option Request
  | [] => none
  | first :: lines =>
    match (Text.trim first.toList).splitOn ' ' with
    | method :: target :: _ =>
      if method.all isTokenChar then
        some
          { method := String.ofList method
            target := .parse (String.ofList target)
            headers := lines.filterMap headerOfLine? }
      else none
    | _ => none

def Response.write (response : Response) : String :=
  let lines := response.headers.map fun (name, value) => name ++ ": " ++ value ++ "\r\n"
  s!"HTTP/1.1 {response.status}\r\n" ++ String.join lines ++ "\r\n" ++ response.body

namespace RequestId

def hexDigits (octet : UInt8) : List Char :=
  [Nat.digitChar (octet.toNat / 16), Nat.digitChar (octet.toNat % 16)]

def mark (octets : List UInt8) : List UInt8 :=
  (octets.modify 6 fun b => b % 16 + 0x40).modify 8 fun b => b % 64 + 0x80

def ofOctets (octets : List UInt8) : String :=
  let digits := (mark octets).flatMap hexDigits
  let groups := [(0, 8), (8, 4), (12, 4), (16, 4), (20, 12)].map fun (start, length) =>
    String.ofList ((digits.drop start).take length)
  "-".intercalate groups

end RequestId

end ContentServer.Http
