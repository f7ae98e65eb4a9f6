import ToolBootstrap.Decimal.Binary

/- The fewest decimal digits that read back to a binary64 number.

   The reals that round to a number reach half way to its neighbours, ends included when the
   significand is even. On the grids of one, two, and more digits the two neighbours of the number
   are tried; the first grid with a hit wins, and of two hits the nearer, the upper one on a tie. -/

namespace ToolBootstrap.Decimal

/-- Whether the gap below a number is half the gap above it. -/
def narrowBelow (b : Binary) : Bool := b.significand == twoTo 52 && -1074 < b.exponent

/-- Whether the quotient `num / den` rounds to the number `b`. -/
def readsBack (b : Binary) (num den : Nat) : Bool :=
  let q := b.toQuotient
  -- a quarter of the gap above is the unit of both sides below
  let unit := Binary.scaled 1 4 (-b.exponent)
  let gapBelow := if narrowBelow b then 1 else 2
  let value := q.1 * unit.2
  let halfAbove := 2 * unit.1 * q.2
  let halfBelow := gapBelow * unit.1 * q.2
  let scale := q.2 * unit.2
  let above := num * scale
  if b.significand % 2 = 0 then
    (value - halfBelow) * den ≤ above && above ≤ (value + halfAbove) * den
  else
    (value - halfBelow) * den < above && above < (value + halfAbove) * den

/-- A number of decimal digits and where they stand: `digits * 10 ^ exponent`. -/
structure Digits where
  digits : Nat
  exponent : Int
  deriving DecidableEq, Repr

namespace Digits

def toQuotient (d : Digits) : Nat × Nat :=
  (d.digits * tenTo d.exponent.toNat, tenTo (-d.exponent).toNat)

/-- Trailing zeros moved into the exponent, at most `fuel` of them. -/
def strip : Nat → Digits → Digits
  | 0, d => d
  | fuel + 1, d =>
    if d.digits ≠ 0 ∧ d.digits % 10 = 0 then strip fuel ⟨d.digits / 10, d.exponent + 1⟩ else d

/-- Positional notation with a point: at least one digit on each side of it. -/
def positional (d : Digits) : String :=
  let digits := Nat.toDigits 10 d.digits
  if 0 ≤ d.exponent then
    String.ofList (digits ++ List.replicate d.exponent.toNat '0' ++ ['.', '0'])
  else
    let places := (-d.exponent).toNat
    let padded := List.replicate (places + 1 - digits.length) '0' ++ digits
    let whole := padded.length - places
    String.ofList (padded.take whole ++ '.' :: padded.drop whole)

end Digits

/-- The least `k` with the number below `10 ^ k`. -/
def scaleOf (b : Binary) : Int :=
  let q := b.toQuotient
  let below (k : Int) : Bool := q.1 * tenTo (-k).toNat < q.2 * tenTo k.toNat
  let guess : Int := ((b.significand.log2 : Int) + b.exponent) * 30103 / 100000 - 1
  (((List.range 6).map fun (i : Nat) => guess + i).find? below).getD (guess + 6)

/-- The two neighbours of a number on the grid of multiples of `10 ^ exponent`, the better hit. -/
def hitOnGrid? (b : Binary) (exponent : Int) : Option Digits :=
  let q := b.toQuotient
  let num := q.1 * tenTo (-exponent).toNat
  let den := q.2 * tenTo exponent.toNat
  let lower : Digits := ⟨num / den, exponent⟩
  let upper : Digits := ⟨num / den + 1, exponent⟩
  let reads (d : Digits) : Bool := readsBack b d.toQuotient.1 d.toQuotient.2
  match reads lower, reads upper with
  | true, true => if 2 * num < (2 * lower.digits + 1) * den then some lower else some upper
  | true, false => some lower
  | false, true => some upper
  | false, false => none

/-- The fewest digits that read back to a number. -/
def shortest (b : Binary) : Digits :=
  if b.significand = 0 then ⟨0, 0⟩
  else
    let k := scaleOf b
    let hits := (List.range 18).filterMap fun (n : Nat) => hitOnGrid? b (k - n - 1)
    match hits.head? with
    | some d => Digits.strip 20 d
    | none =>
      let fives := Nat.pow 5 (-b.exponent).toNat
      ⟨b.significand * fives * twoTo b.exponent.toNat, min b.exponent 0⟩

end ToolBootstrap.Decimal
