import ContentServer.Text.Basic
import ContentServer.Url.Host

namespace ContentServer.Url

inductive Kind where
  | special
  | file
  | free
  deriving DecidableEq

def kindOf (scheme : String) : Kind :=
  if scheme ∈ ["http", "https", "ws", "wss", "ftp"] then .special
  else if scheme = "file" then .file
  else .free

/-- Drops blanks and controls around the text, and tabs and line ends anywhere. -/
def clean (text : List Char) : List Char :=
  (Text.trimBy (fun c => c.toNat ≤ 0x20) text).filter fun c => c != '\t' && c != '\n' && c != '\r'

def isSchemeChar (c : Char) : Bool :=
  c.isAlphanum || c == '+' || c == '.' || c == '-'

def splitScheme? (text : List Char) : Option (String × List Char) :=
  match text.dropWhile isSchemeChar with
  | ':' :: rest =>
    if (text.head?.map Char.isAlpha).getD false then
      some (String.ofList ((text.takeWhile isSchemeChar).map Char.toLower), rest)
    else none
  | _ => none

def endsAuthority (kind : Kind) (c : Char) : Bool :=
  c == '/' || c == '?' || c == '#' || (kind != .free && c == '\\')

/-- The text after the credentials, and whether there were any; `none` if nothing but a lone `@`
stands before the end of the authority. -/
def skipCredentials? (kind : Kind) (text : List Char) : Option (Bool × List Char) :=
  let authority := text.takeWhile (! endsAuthority kind ·)
  let rest := text.dropWhile (! endsAuthority kind ·)
  match Text.cutLast? '@' authority with
  | none => some (false, text)
  | some ([], host) => if host.isEmpty && !rest.isEmpty then none else some (false, host ++ rest)
  | some (credentials, host) => some (credentials != [':'], host ++ rest)

def spanHost (kind : Kind) : Bool → List Char → List Char × List Char
  | _, [] => ([], [])
  | bracketed, c :: text =>
    if (c == ':' && !bracketed) || endsAuthority kind c then ([], c :: text)
    else
      let (host, rest) := spanHost kind (c == '[' || (c != ']' && bracketed)) text
      (c :: host, rest)

def isPortEnd : List Char → Bool
  | ':' :: text =>
    let digits := text.takeWhile Char.isDigit
    let rest := text.dropWhile Char.isDigit
    Host.numeral 10 digits ≤ 65535 &&
      (rest.head?.map fun c => c == '/' || c == '\\' || c == '?' || c == '#').getD true
  | _ => true

def isAuthority (idna : Idna) (kind : Kind) (text : List Char) : Bool :=
  match skipCredentials? kind text with
  | none => false
  | some (hasCredentials, text) =>
    let (host, rest) := spanHost kind false text
    isPortEnd rest &&
      if host.isEmpty then kind == .free && !hasCredentials && rest.head? != some ':'
      else if kind = .free then Host.isOpaque host
      else Host.isSpecial idna host

def isDriveLetter : List Char → Bool
  | [c, d] => c.isAlpha && (d == ':' || d == '|')
  | _ => false

/-- After `//` or its backslash spellings comes a host, which may be left out or be a drive
letter. -/
def isFileRest (idna : Idna) : List Char → Bool
  | a :: b :: text =>
    if (a == '/' || a == '\\') && (b == '/' || b == '\\') then
      let host := text.takeWhile (! endsAuthority .file ·)
      host.isEmpty || isDriveLetter host || Host.isSpecial idna host
    else true
  | _ => true

def isValidRest (idna : Idna) (kind : Kind) (text : List Char) : Bool :=
  match kind with
  | .special => isAuthority idna .special (text.dropWhile fun c => c == '/' || c == '\\')
  | .file => isFileRest idna text
  | .free =>
    match text with
    | '/' :: '/' :: text => isAuthority idna .free text
    | _ => true

/-- The scheme of an absolute URL, in lower case; `none` if the text is no absolute URL. -/
def scheme? (idna : Idna) (text : String) : Option String :=
  match splitScheme? (clean text.toList) with
  | some (scheme, rest) => if isValidRest idna (kindOf scheme) rest then some scheme else none
  | none => none

def isAbsolute (idna : Idna) (text : String) : Bool :=
  (scheme? idna text).isSome

def isWeb (idna : Idna) (text : String) : Bool :=
  scheme? idna text = some "http" || scheme? idna text = some "https"

end ContentServer.Url
