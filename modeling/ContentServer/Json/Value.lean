import ContentServer.Json.Number
import ContentServer.Json.Scalar
import ContentServer.Json.Text

namespace ContentServer

inductive Json where
  | null
  | bool (b : Bool)
  | number (n : Json.Number)
  | text (s : String)
  | list (items : List Json)
  | object (fields : List (String × Json))

namespace Json

def int (n : Int) : Json :=
  number (.integer n)

def ofOption {α : Type} (write : α → Json) : Option α → Json
  | none => null
  | some a => write a

def texts (l : List String) : Json :=
  list (l.map text)

mutual

def write : Json → List Char
  | null => ['n', 'u', 'l', 'l']
  | bool true => ['t', 'r', 'u', 'e']
  | bool false => ['f', 'a', 'l', 's', 'e']
  | number n => n.write
  | text s => quote s
  | list [] => ['[', ']']
  | list (item :: items) => '[' :: write item ++ writeItems items
  | object [] => ['\x7b', '\x7d']
  | object ((name, value) :: fields) =>
    '\x7b' :: quote name ++ ':' :: write value ++ writeFields fields

def writeItems : List Json → List Char
  | [] => [']']
  | item :: items => ',' :: write item ++ writeItems items

def writeFields : List (String × Json) → List Char
  | [] => ['\x7d']
  | (name, value) :: fields => ',' :: quote name ++ ':' :: write value ++ writeFields fields

end

def print (json : Json) : String :=
  String.ofList json.write

/-- Sets a field of an object. An earlier field of that name is dropped. -/
def setField (fields : List (String × Json)) (name : String) (value : Json) :
    List (String × Json) :=
  fields.filter (·.1 != name) ++ [(name, value)]

namespace Reader

def tree : Nat → Reader Json
  | 0 => fail .tooDeep
  | depth + 1 => do
    match ← peekNonblank with
    | none => failNext .eofInValue
    | some c =>
      if c = 'n' then advance; word ['u', 'l', 'l']; return .null
      else if c = 't' then advance; word ['r', 'u', 'e']; return .bool true
      else if c = 'f' then advance; word ['a', 'l', 's', 'e']; return .bool false
      else if c = '-' then advance; return .number (← number true)
      else if c.isDigit then return .number (← number false)
      else if c = '"' then advance; return .text (String.ofList (← text))
      else if c = '[' then advance; return .list (← items (tree depth))
      else if c = '\x7b' then
        advance
        return .object (← members .object
          (fun fields => do
            let name ← key
            colon
            return setField fields name (← tree depth))
          [])
      else failNext .expectedValue

end Reader

def maxDepth : Nat := 128

def parse (text : String) : Except Fault Json :=
  (Reader.tree maxDepth).read text

end Json

end ContentServer
