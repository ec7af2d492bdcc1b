namespace ContentServer.Json

/-- The non-negative number `significand * 2 ^ exponent`. The significand has 53 bits unless the
exponent is the least one. -/
structure Double where
  significand : Nat
  exponent : Int
  deriving DecidableEq, Repr

namespace Double

def leastExponent : Int := -1074

def zero : Double :=
  ⟨0, leastExponent⟩

def scale (num den : Nat) (exponent : Int) : Nat × Nat :=
  if 0 ≤ exponent then (num * Nat.pow 2 exponent.toNat, den)
  else (num, den * Nat.pow 2 (-exponent).toNat)

def roundHalfEven (num den : Nat) : Nat :=
  let quotient := num / den
  let rest := num % den
  if den < 2 * rest || (den = 2 * rest && quotient % 2 = 1) then quotient + 1 else quotient

/-- The nearest number to a fraction, as if exponents had no upper bound. -/
def nearest (num den : Nat) : Double :=
  if num = 0 then zero
  else
    let guess : Int := (num.log2 : Int) - den.log2 - 52
    let (n, d) := scale num den (-guess)
    let exponent := max leastExponent (if n / d < Nat.pow 2 52 then guess - 1 else guess)
    let (n, d) := scale num den (-exponent)
    let significand := roundHalfEven n d
    if significand = Nat.pow 2 53 then ⟨Nat.pow 2 52, exponent + 1⟩ else ⟨significand, exponent⟩

def ofNat (n : Nat) : Double :=
  nearest n 1

def mul (a b : Double) : Double :=
  let (n, d) := scale (a.significand * b.significand) 1 (a.exponent + b.exponent)
  nearest n d

def div (a b : Double) : Double :=
  let (n, d) := scale a.significand b.significand (a.exponent - b.exponent)
  nearest n d

def isInfinite (a : Double) : Bool :=
  Nat.pow 2 1024 ≤ (scale a.significand 1 a.exponent).1 / (scale a.significand 1 a.exponent).2

def maxPower : Nat := 308

def shiftDown (a : Double) (n : Nat) : Double :=
  if _h : n ≤ maxPower ∨ a.significand = 0 then a.div (ofNat (Nat.pow 10 (min n maxPower)))
  else shiftDown (a.div (ofNat (Nat.pow 10 maxPower))) (n - maxPower)
termination_by n
decreasing_by
  simp only [maxPower] at *
  omega

def ofDecimal (significand : Nat) (exponent : Int) : Double :=
  if significand = 0 then zero
  else if 0 ≤ exponent then (ofNat significand).mul (ofNat (Nat.pow 10 exponent.toNat))
  else (ofNat significand).shiftDown (-exponent).toNat

/-- The multiple of `10 ^ power` that rounds to the number and is nearest to it. -/
def onGrid? (a : Double) (power : Int) : Option Nat :=
  let below := if a.significand = Nat.pow 2 52 && a.exponent != leastExponent then 1 else 2
  let (n, d) := scale 1 1 (a.exponent - 2)
  let (n, d) :=
    if 0 ≤ power then (n, d * Nat.pow 10 power.toNat) else (n * Nat.pow 10 (-power).toNat, d)
  let value := 4 * a.significand * n
  let low := (4 * a.significand - below) * n
  let high := (4 * a.significand + 2) * n
  let reaches (c : Nat) : Bool :=
    c != 0 &&
      if a.significand % 2 = 0 then low ≤ c * d && c * d ≤ high else low < c * d && c * d < high
  let floor := value / d
  match reaches floor, reaches (floor + 1) with
  | false, false => none
  | true, false => some floor
  | false, true => some (floor + 1)
  | true, true => some (roundHalfEven value d)

def powers : List Int :=
  (List.range 633).map fun (n : Nat) => 308 - (n : Int)

/-- The fewest digits that round to a number other than zero, and the power of ten that they
count. -/
def shortest (a : Double) : Nat × Int :=
  (powers.findSome? fun power => (a.onGrid? power).map fun digits => (digits, power)).getD (0, 0)

def text (a : Double) : List Char :=
  if a.significand = 0 then ['0', '.', '0']
  else
    let (n, power) := a.shortest
    let digits := Nat.toDigits 10 n
    let point := digits.length + power
    if 0 ≤ power && point ≤ 16 then digits ++ List.replicate power.toNat '0' ++ ['.', '0']
    else if 0 < point && point ≤ 16 then digits.take point.toNat ++ '.' :: digits.drop point.toNat
    else if -5 < point && point ≤ 0 then '0' :: '.' :: List.replicate (-point).toNat '0' ++ digits
    else
      let fraction := if digits.length = 1 then [] else '.' :: digits.drop 1
      digits.take 1 ++ fraction ++ 'e' :: (toString (point - 1)).toList

end Double

end ContentServer.Json
