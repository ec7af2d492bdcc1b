import ContentServer.Json.Fault

namespace ContentServer.Json

/-- What a reader took, and what is left. -/
structure Taken (α : Type) (cs : List Char) where
  value : α
  rest : List Char
  suffix : rest <:+ cs

def Reader (α : Type) : Type :=
  (cs : List Char) → Except Fault (Taken α cs)

namespace Reader

variable {α β : Type}

protected def pure (a : α) : Reader α := fun cs =>
  .ok ⟨a, cs, List.suffix_refl cs⟩

protected def bind (r : Reader α) (f : α → Reader β) : Reader β := fun cs =>
  match r cs with
  | .error e => .error e
  | .ok a =>
    match f a.value a.rest with
    | .error e => .error e
    | .ok b => .ok ⟨b.value, b.rest, b.suffix.trans a.suffix⟩

instance : Monad Reader where
  pure := Reader.pure
  bind := Reader.bind

def fail (problem : Problem) : Reader α := fun cs =>
  .error ⟨problem, Text.Utf8.size cs⟩

def failNext (problem : Problem) : Reader α := fun cs =>
  .error ⟨problem, Text.Utf8.size cs - 1⟩

def failAfter (n : Nat) (problem : Problem) : Reader α := fun cs =>
  .error ⟨problem, Text.Utf8.size cs - n⟩

def peek : Reader (Option Char) := fun cs =>
  .ok ⟨cs.head?, cs, List.suffix_refl cs⟩

def advance : Reader Unit := fun cs =>
  .ok ⟨(), cs.tail, List.tail_suffix cs⟩

def takeWhile (p : Char → Bool) : Reader (List Char) := fun cs =>
  .ok ⟨cs.takeWhile p, cs.dropWhile p, List.dropWhile_suffix p⟩

def isBlank (c : Char) : Bool :=
  c = ' ' || c = '\n' || c = '\t' || c = '\r'

def peekNonblank : Reader (Option Char) := fun cs =>
  .ok ⟨(cs.dropWhile isBlank).head?, cs.dropWhile isBlank, List.dropWhile_suffix isBlank⟩

def word : List Char → Reader Unit
  | [] => pure ()
  | c :: cs => do
    match ← peek with
    | none => fail .eofInValue
    | some d => if d = c then do advance; word cs else failNext .expectedIdent

def run (r : Reader α) (text : List Char) : Except Fault α :=
  (r text).map (·.value)

end Reader

end ContentServer.Json
