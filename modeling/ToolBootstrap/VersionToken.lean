import ToolBootstrap.Text.Alphanumeric

/- Version numbers in running text.

   A token is three runs of decimal digits between points, and as long a pre-release part as
   follows a hyphen. Tokens are found from left to right and do not overlap. -/

namespace ToolBootstrap.VersionToken

def isPreReleaseChar (c : Char) : Bool :=
  (c.isDigit || ('A' ≤ c && c ≤ 'Z') || ('a' ≤ c && c ≤ 'z')) || c == '.' || c == '-'

/-- A run of decimal digits and what follows it, unless there is none. -/
def digits? (cs : List Char) : Option (List Char × List Char) :=
  match cs.takeWhile isDecimalDigit with
  | [] => none
  | run => some (run, cs.dropWhile isDecimalDigit)

/-- A point and a run of decimal digits. -/
def pointDigits? : List Char → Option (List Char × List Char)
  | '.' :: cs => (digits? cs).map fun r => ('.' :: r.1, r.2)
  | _ => none

/-- A hyphen and a pre-release part, or nothing. -/
def preRelease : List Char → List Char × List Char
  | '-' :: cs =>
    match cs.takeWhile isPreReleaseChar with
    | [] => ([], '-' :: cs)
    | run => ('-' :: run, cs.dropWhile isPreReleaseChar)
  | cs => ([], cs)

/-- The token at the front of a text, and what follows it. -/
def head? (cs : List Char) : Option (List Char × List Char) := do
  let (major, cs) ← digits? cs
  let (minor, cs) ← pointDigits? cs
  let (patch, cs) ← pointDigits? cs
  let (tail, cs) := preRelease cs
  return (major ++ minor ++ patch ++ tail, cs)

/-- The tokens of a text that has at most `fuel` scalar values. -/
def allWithin : Nat → List Char → List (List Char)
  | 0, _ => []
  | _, [] => []
  | fuel + 1, c :: cs =>
    match head? (c :: cs) with
    | some (token, rest) => token :: allWithin fuel rest
    | none => allWithin fuel cs

/-- The tokens of a text, from left to right. -/
def all (text : String) : List String :=
  (allWithin text.length text.toList).map String.ofList

end ToolBootstrap.VersionToken
