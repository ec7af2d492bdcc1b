import ContentServer.Text.Basic
import ContentServer.Url

namespace ContentServer

inductive Disposition where
  | permanent
  | temporary
  | seeOther
  | temporaryPreserve
  | forbidden
  | notFound
  | gone
  | unavailable
  deriving DecidableEq, Repr

namespace Disposition

def code : Disposition → UInt16
  | permanent => 301
  | temporary => 302
  | seeOther => 303
  | temporaryPreserve => 307
  | forbidden => 403
  | notFound => 404
  | gone => 410
  | unavailable => 503

def all : List Disposition :=
  [permanent, temporary, seeOther, temporaryPreserve, forbidden, notFound, gone, unavailable]

def ofCode? (code : Int) : Option Disposition :=
  all.find? fun d => (d.code.toNat : Int) = code

def isRedirect : Disposition → Bool
  | permanent | temporary | seeOther | temporaryPreserve => true
  | _ => false

def unsupportedMessage (code : Int) : String :=
  s!"unsupported redirect code {code}"

theorem ofCode?_code (d : Disposition) : ofCode? d.code.toNat = some d := by
  cases d <;> decide

end Disposition

def wildcard : String := "*"

def isWildcard (key : String) : Bool :=
  key.toList.getLast? == some '*'

structure RedirectRule where
  source : String
  target : String
  disposition : Disposition
  deriving DecidableEq, Repr

namespace RedirectRule

def isWildcard (rule : RedirectRule) : Bool :=
  ContentServer.isWildcard rule.source

/-- The target, its final star replaced by the parameters if the source has one too. -/
def targetFor (rule : RedirectRule) (parameters : List String) : String :=
  if rule.isWildcard && ContentServer.isWildcard rule.target then
    String.ofList rule.target.toList.dropLast ++ "/".intercalate parameters
  else rule.target

end RedirectRule

def trimOrigin (origin : String) : String :=
  Text.lift (fun cs => (cs.reverse.dropWhile (· == '/')).reverse) origin

/-- An absolute URL stands for itself; any other target is resolved against the origin. -/
def absoluteLocation (idna : Url.Idna) (target origin : String) : String :=
  if Url.isAbsolute idna target then target
  else if target.toList.head? = some '/' then trimOrigin origin ++ target
  else trimOrigin origin ++ "/" ++ target

structure RedirectEmission where
  status : UInt16
  location : String
  deriving DecidableEq, Repr

def RedirectEmission.to (idna : Url.Idna) (disposition : Disposition) (target origin : String) :
    RedirectEmission :=
  ⟨disposition.code, absoluteLocation idna target origin⟩

end ContentServer
