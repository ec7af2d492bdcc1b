namespace ContentServer.Text

namespace Utf8

def encode (cs : List Char) : List UInt8 :=
  cs.flatMap String.utf8EncodeChar

def size : List Char → Nat
  | [] => 0
  | c :: cs => c.utf8Size + size cs

def encodeString (s : String) : List UInt8 :=
  encode s.toList

/-- A character of which `owed` octets are to come, the next of them from `low` to `high`. -/
structure Partial where
  owed : Nat
  value : Nat
  low : Nat
  high : Nat

inductive Lead where
  | whole (c : Char)
  | begun (p : Partial)
  | wrong

def Lead.of (octet : UInt8) : Lead :=
  let b := octet.toNat
  if b < 0x80 then .whole (Char.ofNat b)
  else if b < 0xC2 then .wrong
  else if b < 0xE0 then .begun ⟨1, b - 0xC0, 0x80, 0xBF⟩
  else if b < 0xF0 then
    .begun ⟨2, b - 0xE0, if b = 0xE0 then 0xA0 else 0x80, if b = 0xED then 0x9F else 0xBF⟩
  else if b < 0xF5 then
    .begun ⟨3, b - 0xF0, if b = 0xF0 then 0x90 else 0x80, if b = 0xF4 then 0x8F else 0xBF⟩
  else .wrong

def Partial.accepts (p : Partial) (octet : UInt8) : Bool :=
  p.low ≤ octet.toNat && octet.toNat ≤ p.high

def Partial.extend (p : Partial) (octet : UInt8) : Partial :=
  ⟨p.owed - 1, p.value * 64 + octet.toNat % 64, 0x80, 0xBF⟩

/-- Decodes octets that follow `open?`; `none` stands for a longest wrong piece. -/
def decodeFrom : Option Partial → List UInt8 → List (Option Char)
  | none, [] => []
  | some _, [] => [none]
  | none, b :: octets =>
    match Lead.of b with
    | .whole c => some c :: decodeFrom none octets
    | .begun p => decodeFrom (some p) octets
    | .wrong => none :: decodeFrom none octets
  | some p, b :: octets =>
    if p.accepts b then
      if p.owed = 1 then some (Char.ofNat (p.extend b).value) :: decodeFrom none octets
      else decodeFrom (some (p.extend b)) octets
    else
      none ::
        match Lead.of b with
        | .whole c => some c :: decodeFrom none octets
        | .begun p => decodeFrom (some p) octets
        | .wrong => none :: decodeFrom none octets

def decode (octets : List UInt8) : List (Option Char) :=
  decodeFrom none octets

def decode? (octets : List UInt8) : Option (List Char) :=
  (decode octets).mapM id

def decodeLossy (octets : List UInt8) : List Char :=
  (decode octets).map (·.getD (Char.ofNat 0xFFFD))

end Utf8

namespace Percent

def hexDigit? (octet : UInt8) : Option UInt8 :=
  if 0x30 ≤ octet && octet ≤ 0x39 then some (octet - 0x30)
  else if 0x41 ≤ octet && octet ≤ 0x46 then some (octet - 0x37)
  else if 0x61 ≤ octet && octet ≤ 0x66 then some (octet - 0x57)
  else none

def decode : List UInt8 → List UInt8
  | 0x25 :: a :: b :: octets =>
    match hexDigit? a, hexDigit? b with
    | some high, some low => (high * 16 + low) :: decode octets
    | _, _ => 0x25 :: decode (a :: b :: octets)
  | octet :: octets => octet :: decode octets
  | [] => []

/-- A name or value of a form: plus signs are blanks, then escapes are decoded, then UTF-8. -/
def formText (octets : List UInt8) : String :=
  String.ofList (Utf8.decodeLossy (decode (octets.map fun b => if b = 0x2B then 0x20 else b)))

def formPair (octets : List UInt8) : String × String :=
  (formText (octets.takeWhile (· != 0x3D)), formText ((octets.dropWhile (· != 0x3D)).drop 1))

def formPairs (query : String) : List (String × String) :=
  (((Utf8.encodeString query).splitOn 0x26).filter (! ·.isEmpty)).map formPair

end Percent

end ContentServer.Text
