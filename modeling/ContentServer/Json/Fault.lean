import ContentServer.Json.Double
import ContentServer.Text.Octets
import ContentServer.Text.Printable

namespace ContentServer.Json

inductive Found where
  | null
  | bool (b : Bool)
  | integer (n : Int)
  | float (negative : Bool) (significand : Nat) (exponent : Int)
  | text (s : String)
  | sequence
  | map
  deriving DecidableEq, Repr

inductive Problem where
  | eofInList
  | eofInObject
  | eofInString
  | eofInValue
  | expectedColon
  | expectedListCommaOrEnd
  | expectedObjectCommaOrEnd
  | expectedIdent
  | expectedValue
  | invalidEscape
  | invalidNumber
  | numberOutOfRange
  | controlCharacter
  | keyNotString
  | loneSurrogate
  | trailingComma
  | trailingCharacters
  | unfinishedSurrogates
  | tooDeep
  | invalidType (found : Found) (expected : String)
  | invalidValue (reason : String)
  | invalidLength (length : Nat) (expected : String)
  | missingField (name : String)
  | duplicateField (name : String)
  deriving DecidableEq, Repr

inductive Category where
  | eof
  | syntactic
  | data
  deriving DecidableEq, Repr

def Problem.category : Problem → Category
  | eofInList | eofInObject | eofInString | eofInValue => .eof
  | invalidType _ _ | invalidValue _ | invalidLength _ _ | missingField _ | duplicateField _ => .data
  | _ => .syntactic

/-- A problem, and how many octets of the text come after the place where it was noticed. -/
structure Fault where
  problem : Problem
  left : Nat
  deriving DecidableEq, Repr

/-- The line of the octet after the first `n` ones, and the octets before it on that line, from
one. -/
def position (line column n : Nat) : List Char → Nat × Nat
  | [] => (line, column)
  | c :: cs =>
    if n < c.utf8Size then (line, column + n)
    else if c = '\n' then position (line + 1) 0 (n - 1) cs
    else position line (column + c.utf8Size) (n - c.utf8Size) cs

def Fault.position (fault : Fault) (text : List Char) : Nat × Nat :=
  Json.position 1 0 (Text.Utf8.size text - fault.left) text

def Found.message : Found → String
  | null => "null"
  | bool b => s!"boolean `{b}`"
  | integer n => s!"integer `{n}`"
  | float negative significand exponent =>
    let sign := if negative then ['-'] else []
    let digits := String.ofList (sign ++ (Double.ofDecimal significand exponent).text)
    s!"floating point `{digits}`"
  | text s => "string " ++ Text.quoted s
  | sequence => "sequence"
  | map => "map"

def Problem.message : Problem → String
  | eofInList => "EOF while parsing a list"
  | eofInObject => "EOF while parsing an object"
  | eofInString => "EOF while parsing a string"
  | eofInValue => "EOF while parsing a value"
  | expectedColon => "expected `:`"
  | expectedListCommaOrEnd => "expected `,` or `]`"
  | expectedObjectCommaOrEnd => "expected `,` or `\x7d`"
  | expectedIdent => "expected ident"
  | expectedValue => "expected value"
  | invalidEscape => "invalid escape"
  | invalidNumber => "invalid number"
  | numberOutOfRange => "number out of range"
  | controlCharacter => "control character (\\u0000-\\u001F) found while parsing a string"
  | keyNotString => "key must be a string"
  | loneSurrogate => "lone leading surrogate in hex escape"
  | trailingComma => "trailing comma"
  | trailingCharacters => "trailing characters"
  | unfinishedSurrogates => "unexpected end of hex escape"
  | tooDeep => "recursion limit exceeded"
  | invalidType found expected => s!"invalid type: {found.message}, expected {expected}"
  | invalidValue reason => s!"invalid value: {reason}"
  | invalidLength length expected => s!"invalid length {length}, expected {expected}"
  | missingField name => s!"missing field `{name}`"
  | duplicateField name => s!"duplicate field `{name}`"

def Fault.message (fault : Fault) (text : List Char) : String :=
  let (line, column) := fault.position text
  s!"{fault.problem.message} at line {line} column {column}"

end ContentServer.Json
