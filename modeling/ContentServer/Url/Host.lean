import ContentServer.Text.Basic
import ContentServer.Text.Octets

namespace ContentServer.Url

/-- The step from a domain to its ASCII form, which may refuse the domain. It is a parameter of all
that reads URLs. -/
abbrev Idna :=
  List Char → Option (List Char)

/-- Takes domains as they are written, which is right for those in ASCII without `xn--` labels. -/
def Idna.asWritten : Idna :=
  some

namespace Host

def isHexDigit (c : Char) : Bool :=
  c.isDigit || ('a' ≤ c && c ≤ 'f') || ('A' ≤ c && c ≤ 'F')

def digitValue (c : Char) : Nat :=
  if c.isDigit then c.toNat - '0'.toNat else c.toLower.toNat - 'a'.toNat + 10

def numeral (base : Nat) (digits : List Char) : Nat :=
  digits.foldl (fun n c => n * base + digitValue c) 0

/-- A number of an IPv4 list: decimal, octal after `0`, hexadecimal after `0x`; `0x` alone is
zero. -/
def ipv4Number? : List Char → Option Nat
  | [] => none
  | '0' :: x :: digits =>
    if x = 'x' || x = 'X' then
      if digits.all isHexDigit then some (numeral 16 digits) else none
    else if (x :: digits).all fun c => '0' ≤ c && c ≤ '7' then some (numeral 8 (x :: digits))
    else none
  | digits => if digits.all Char.isDigit then some (numeral 10 digits) else none

def labels (domain : List Char) : List (List Char) :=
  let all := domain.splitOn '.'
  if all.getLast? = some [] then all.dropLast else all

def endsInNumber (domain : List Char) : Bool :=
  match (labels domain).getLast? with
  | none => false
  | some last => (!last.isEmpty && last.all Char.isDigit) || (ipv4Number? last).isSome

/-- Up to four numbers, each but the last an octet; the last fills the octets that remain. -/
def isIpv4 (domain : List Char) : Bool :=
  match (labels domain).mapM ipv4Number? with
  | none => false
  | some numbers =>
    match numbers.getLast? with
    | none => false
    | some last =>
      numbers.length ≤ 4 && numbers.dropLast.all (· ≤ 255) && last < Nat.pow 256 (5 - numbers.length)

def isDottedOctet (digits : List Char) : Bool :=
  !digits.isEmpty && digits.all Char.isDigit && numeral 10 digits ≤ 255 &&
    (digits.length = 1 || digits.head? != some '0')

def ipv6Groups? (mayEndDotted : Bool) : List (List Char) → Option Nat
  | [] => some 0
  | [last] =>
    if last.contains '.' then
      let octets := last.splitOn '.'
      if mayEndDotted && octets.length = 4 && octets.all isDottedOctet then some 2 else none
    else if !last.isEmpty && last.length ≤ 4 && last.all isHexDigit then some 1
    else none
  | piece :: pieces =>
    if !piece.isEmpty && piece.length ≤ 4 && piece.all isHexDigit then
      (ipv6Groups? mayEndDotted pieces).map (· + 1)
    else none

def ipv6Part? (mayEndDotted : Bool) (text : List Char) : Option Nat :=
  if text.isEmpty then some 0 else ipv6Groups? mayEndDotted (text.splitOn ':')

/-- Eight groups, or fewer with one `::` in place of those left out. -/
def isIpv6 (text : List Char) : Bool :=
  match Text.splitWord [':', ':'] text with
  | [whole] => ipv6Part? true whole == some 8
  | [before, after] =>
    match ipv6Part? false before, ipv6Part? true after with
    | some m, some n => m + n ≤ 7
    | _, _ => false
  | _ => false

def isBracketedIpv6 (host : List Char) : Bool :=
  host.getLast? == some ']' && isIpv6 (host.drop 1).dropLast

def isForbiddenInDomain (c : Char) : Bool :=
  c.toNat ≤ 0x20 || c.toNat == 0x7F || "%#/:<>?@[\\]^|".toList.contains c

def isForbiddenInOpaque (c : Char) : Bool :=
  c.toNat == 0 || "\t\n\r #/:<>?@[\\]^|".toList.contains c

def isDomain (domain : List Char) : Bool :=
  !domain.isEmpty && !domain.any isForbiddenInDomain && (!endsInNumber domain || isIpv4 domain)

def isSpecial (idna : Idna) (host : List Char) : Bool :=
  if host.head? == some '[' then isBracketedIpv6 host
  else
    match (Text.Utf8.decode? (Text.Percent.decode (Text.Utf8.encode host))).bind idna with
    | some domain => isDomain domain
    | none => false

def isOpaque (host : List Char) : Bool :=
  if host.head? == some '[' then isBracketedIpv6 host else !host.any isForbiddenInOpaque

end Host

end ContentServer.Url
