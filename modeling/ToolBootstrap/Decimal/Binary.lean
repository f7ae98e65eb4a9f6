import ToolBootstrap.Decimal.Power

/- Non-negative binary64 numbers, in exact arithmetic on naturals.

   A number is a significand times a power of two. Every operation rounds once, to the nearest
   number with a significand below 2^53 and an exponent not below -1074, and a half goes to the even
   neighbour. Numbers from 2^1024 on have left the range; `isFinite` tells. -/

namespace ToolBootstrap.Decimal

/-- The nearest natural to a quotient; a half goes to the even neighbour. -/
def nearestEven (num den : Nat) : Nat :=
  let q := num / den
  let r := num % den
  if 2 * r < den then q
  else if den < 2 * r then q + 1
  else q + q % 2

/-- The number `significand * 2 ^ exponent`. -/
structure Binary where
  significand : Nat
  exponent : Int
  deriving DecidableEq, Repr

namespace Binary

def zero : Binary := ⟨0, 0⟩

/-- `num / den * 2 ^ (-exponent)`, as a pair of naturals. -/
def scaled (num den : Nat) (exponent : Int) : Nat × Nat :=
  (num * twoTo (-exponent).toNat, den * twoTo exponent.toNat)

/-- The exponent at which a positive quotient has its leading bit at place 52, or the least one. -/
def exponentOf (num den : Nat) : Int :=
  let estimate : Int := (num.log2 : Int) - (den.log2 : Int) - 53
  let pair := scaled num den estimate
  let exact := if twoTo 53 * pair.2 ≤ pair.1 then estimate + 1 else estimate
  max exact (-1074)

/-- The number nearest to a quotient of naturals. -/
def ofQuotient (num den : Nat) : Binary :=
  if num = 0 then zero
  else
    let exponent := exponentOf num den
    let pair := scaled num den exponent
    let significand := nearestEven pair.1 pair.2
    if significand = twoTo 53 then ⟨twoTo 52, exponent + 1⟩ else ⟨significand, exponent⟩

def ofNat (n : Nat) : Binary := ofQuotient n 1

def toQuotient (b : Binary) : Nat × Nat := scaled b.significand 1 (-b.exponent)

def add (a b : Binary) : Binary :=
  let p := a.toQuotient
  let q := b.toQuotient
  ofQuotient (p.1 * q.2 + q.1 * p.2) (p.2 * q.2)

/-- Whether a number lies below 2^1024. -/
def isFinite (b : Binary) : Bool := b.exponent ≤ 971

/-- Whether a number is at least a natural. -/
def reaches (b : Binary) (n : Nat) : Bool := n * b.toQuotient.2 ≤ b.toQuotient.1

/-- A natural in base ten with at least `width` digits. -/
def paddedDigits (width n : Nat) : List Char :=
  let digits := Nat.toDigits 10 n
  List.replicate (width - digits.length) '0' ++ digits

/-- The exact value rounded to a number of decimals; a half goes to the even neighbour. -/
def fixedText (places : Nat) (b : Binary) : String :=
  let q := b.toQuotient
  let units := nearestEven (q.1 * tenTo places) q.2
  toString (units / tenTo places) ++ "." ++
    String.ofList (paddedDigits places (units % tenTo places))

end Binary

end ToolBootstrap.Decimal
