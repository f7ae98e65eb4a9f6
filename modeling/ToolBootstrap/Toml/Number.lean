import ToolBootstrap.Toml.Value

/- The words of a document: booleans, integers, floating point numbers, dates and times.

   A word is read as a whole. Underscores may stand between digits only; integers have at most 128
   bits, and a floating point number must not overflow. -/

namespace ToolBootstrap.Toml

/-! ## Digits -/

def digitValue? (c : Char) : Option Nat :=
  if c.isDigit then some (c.toNat - '0'.toNat)
  else if 'a' ≤ c ∧ c ≤ 'f' then some (c.toNat - 'a'.toNat + 10)
  else if 'A' ≤ c ∧ c ≤ 'F' then some (c.toNat - 'A'.toNat + 10)
  else none

/-- Digits of a base with single underscores between them, as their values. -/
def digitRun? (base : Nat) (cs : List Char) : Option (List Nat) :=
  let parts := cs.splitOn '_'
  if parts.any List.isEmpty then none
  else parts.flatten.mapM fun c => (digitValue? c).filter (· < base)

/-- The number that digits write in a base. -/
def ofDigits (base : Nat) (digits : List Nat) : Nat :=
  digits.foldl (fun n d => n * base + d) 0

/-! ## Integers -/

/-- A sign in front of a word: whether it is a minus, and the rest. -/
def sign : List Char → Bool × List Char
  | '-' :: cs => (true, cs)
  | '+' :: cs => (false, cs)
  | cs => (false, cs)

/-- A number without a sign and without a leading zero. -/
def plainNatural? : List Char → Option Nat
  | ['0'] => some 0
  | '0' :: _ => none
  | cs => (digitRun? 10 cs).map (ofDigits 10)

/-- An integer in any of the four bases; only decimal ones have a sign. -/
def integer? : List Char → Option Int
  | '0' :: 'x' :: cs => (digitRun? 16 cs).map fun ds => (ofDigits 16 ds : Int)
  | '0' :: 'o' :: cs => (digitRun? 8 cs).map fun ds => (ofDigits 8 ds : Int)
  | '0' :: 'b' :: cs => (digitRun? 2 cs).map fun ds => (ofDigits 2 ds : Int)
  | cs =>
    let (negative, digits) := sign cs
    (plainNatural? digits).map fun n => if negative then -(n : Int) else (n : Int)

/-- Whether an integer has at most 128 bits, with or without a sign. -/
def fitsInteger (n : Int) : Bool := -(twoTo 127 : Int) ≤ n && n < twoTo 128

/-! ## Floating point numbers -/

/-- The number `digits * 10 ^ exponent`, if it does not overflow. What is far out of the range of
binary64 numbers is decided by the number of digits alone. -/
def decimalNumber? (digits : List Nat) (exponent : Int) : Option Decimal.Binary :=
  let n := ofDigits 10 digits
  let places : Int := ((digits.dropWhile (· == 0)).length : Int) + exponent
  if n = 0 ∨ places < -400 then some Decimal.Binary.zero
  else if 400 < places then none
  else
    let b := Decimal.Binary.ofQuotient (n * tenTo exponent.toNat) (tenTo (-exponent).toNat)
    if b.isFinite then some b else none

def isExponentMark (c : Char) : Bool := c == 'e' || c == 'E'

def exponent? (cs : List Char) : Option Int :=
  let (negative, digits) := sign cs
  (digitRun? 10 digits).map fun ds =>
    let n : Int := (ofDigits 10 ds : Int)
    if negative then -n else n

/-- A finite number with a fraction, an exponent, or both. -/
def finiteFloat? (cs : List Char) : Option Decimal.Binary := do
  let mantissa := cs.takeWhile fun c => !isExponentMark c
  let whole := mantissa.takeWhile (· ≠ '.')
  let power ← match cs.drop mantissa.length with
    | [] => some 0
    | _ :: digits => exponent? digits
  let fraction ← match mantissa.drop whole.length with
    | [] => if mantissa.length = cs.length then none else some []
    | _ :: digits => digitRun? 10 digits
  let _ ← plainNatural? whole
  let front ← digitRun? 10 whole
  decimalNumber? (front ++ fraction) (power - (fraction.length : Int))

def float? (cs : List Char) : Option FloatValue :=
  let (negative, word) := sign cs
  if word = "inf".toList then some ⟨negative, .infinite⟩
  else if word = "nan".toList then some ⟨negative, .notANumber⟩
  else (finiteFloat? word).map fun b => ⟨negative, .finite b⟩

/-! ## Dates and times -/

/-- A number of exactly two decimal digits, at most `limit`. -/
def twoDigits? (limit : Nat) : List Char → Option (Nat × List Char)
  | a :: b :: rest =>
    if a.isDigit ∧ b.isDigit then
      let n := (a.toNat - 48) * 10 + (b.toNat - 48)
      if n ≤ limit then some (n, rest) else none
    else none
  | _ => none

/-- What follows a given character. -/
def after? (mark : Char) : List Char → Option (List Char)
  | c :: rest => if c = mark then some rest else none
  | [] => none

def daysIn (year month : Nat) : Nat :=
  if month = 2 then
    if year % 4 = 0 ∧ (year % 100 ≠ 0 ∨ year % 400 = 0) then 29 else 28
  else if month = 4 ∨ month = 6 ∨ month = 9 ∨ month = 11 then 30
  else 31

def date? (cs : List Char) : Option (List Char) := do
  let (century, cs) ← twoDigits? 99 cs
  let (year, cs) ← twoDigits? 99 cs
  let cs ← after? '-' cs
  let (month, cs) ← twoDigits? 12 cs
  let cs ← after? '-' cs
  let (day, cs) ← twoDigits? 31 cs
  if month = 0 ∨ day = 0 ∨ daysIn (century * 100 + year) month < day then none else some cs

/-- What follows the seconds of a time, which may be left out. -/
def seconds? : List Char → Option (List Char)
  | ':' :: cs => do
    let (_, cs) ← twoDigits? 60 cs
    match cs with
    | '.' :: digits => if (digits.head?.map Char.isDigit) = some true
        then some (digits.dropWhile Char.isDigit) else none
    | _ => some cs
  | cs => some cs

def time? (cs : List Char) : Option (List Char) := do
  let (_, cs) ← twoDigits? 23 cs
  let cs ← after? ':' cs
  let (_, cs) ← twoDigits? 59 cs
  seconds? cs

/-- Whether an offset from universal time, or nothing, is left. -/
def isOffset : List Char → Bool
  | [] => true
  | ['Z'] => true
  | ['z'] => true
  | c :: cs =>
    (c == '+' || c == '-') &&
      ((do
        let (_, cs) ← twoDigits? 23 cs
        let cs ← after? ':' cs
        let (_, cs) ← twoDigits? 59 cs
        if cs = [] then some () else none : Option Unit)).isSome

/-- Whether a character comes between a date and a time. -/
def isTimeMark (c : Char) : Bool := c == 'T' || c == 't' || c == ' '

/-- Whether a word is a date, a time, or both with or without an offset. -/
def isDatetime (cs : List Char) : Bool :=
  match date? cs with
  | some [] => true
  | some (c :: rest) => isTimeMark c && ((time? rest).map isOffset == some true)
  | none => time? cs == some []

/-! ## Words -/

def isWordChar (c : Char) : Bool :=
  c.isAlphanum || c == '_' || c == '+' || c == '-' || c == '.' || c == ':'

def isDate (cs : List Char) : Bool := date? cs == some []

/-- The word at the front of a text, and what follows it. A time may follow a date after one
space. -/
def word (cs : List Char) : List Char × List Char :=
  let first := cs.takeWhile isWordChar
  let rest := cs.dropWhile isWordChar
  match rest with
  | ' ' :: d :: more =>
    if isDate first && d.isDigit then
      (first ++ ' ' :: (d :: more).takeWhile isWordChar, (d :: more).dropWhile isWordChar)
    else (first, rest)
  | _ => (first, rest)

def wordValue? (cs : List Char) : Option Value :=
  if cs = "true".toList then some (.boolean true)
  else if cs = "false".toList then some (.boolean false)
  else
    match integer? cs with
    | some n => if fitsInteger n then some (.integer n) else none
    | none =>
      match float? cs with
      | some f => some (.float f)
      | none => if isDatetime cs then some .datetime else none

end ToolBootstrap.Toml
