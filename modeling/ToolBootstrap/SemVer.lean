import ToolBootstrap.Decimal.Power
import ToolBootstrap.Text.Quoted

/- Semantic versions: three numbers, and optionally a pre-release part and build metadata.

   The parts are read from left to right; the first one that is not well formed is reported. -/

namespace ToolBootstrap.SemVer

/-- The parts of a version, in order. -/
inductive Part where
  | major
  | minor
  | patch
  | preRelease
  | build
  deriving DecidableEq, Repr

def Part.name : Part → String
  | .major => "major version number"
  | .minor => "minor version number"
  | .patch => "patch version number"
  | .preRelease => "pre-release identifier"
  | .build => "build metadata"

/-- Why a text is no semantic version. -/
inductive Fault where
  | empty
  | unexpectedEnd (part : Part)
  | unexpectedChar (part : Part) (c : Char)
  | unexpectedAfter (part : Part) (c : Char)
  | leadingZero (part : Part)
  | overflow (part : Part)
  | emptySegment (part : Part)
  deriving DecidableEq, Repr

def Fault.message : Fault → String
  | .empty => "empty string, expected a semver version"
  | .unexpectedEnd part => "unexpected end of input while parsing " ++ part.name
  | .unexpectedChar part c =>
    "unexpected character " ++ Quoted.char c ++ " while parsing " ++ part.name
  | .unexpectedAfter part c => "unexpected character " ++ Quoted.char c ++ " after " ++ part.name
  | .leadingZero part => "invalid leading zero in " ++ part.name
  | .overflow part => "value of " ++ part.name ++ " exceeds u64::MAX"
  | .emptySegment part => "empty identifier segment in " ++ part.name

structure Version where
  major : Nat
  minor : Nat
  patch : Nat
  preRelease : List (List Char)
  build : List (List Char)
  deriving DecidableEq, Repr

/-- The number that decimal digits write. -/
def numberOf (digits : List Char) : Nat :=
  digits.foldl (fun n c => n * 10 + (c.toNat - '0'.toNat)) 0

/-- The greatest number a part may have. -/
def numberLimit : Nat := twoTo 64 - 1

/-- A number at the front of a text, and what follows it. -/
def number (part : Part) (cs : List Char) : Except Fault (Nat × List Char) :=
  match cs.takeWhile Char.isDigit with
  | [] =>
    match cs with
    | [] => .error (.unexpectedEnd part)
    | c :: _ => .error (.unexpectedChar part c)
  | '0' :: _ :: _ => .error (.leadingZero part)
  | digits =>
    if numberLimit < numberOf digits then .error (.overflow part)
    else .ok (numberOf digits, cs.dropWhile Char.isDigit)

/-- What follows a point after a part. -/
def dot (part : Part) : List Char → Except Fault (List Char)
  | '.' :: cs => .ok cs
  | c :: _ => .error (.unexpectedAfter part c)
  | [] => .error (.unexpectedEnd part)

/-- What the segments of a pre-release part and of build metadata are made of. -/
def isSegmentChar (c : Char) : Bool :=
  c.isDigit || ('A' ≤ c && c ≤ 'Z') || ('a' ≤ c && c ≤ 'z') || c == '-'

/-- A segment that its part allows: a pre-release number has no leading zero. -/
def checkSegment (part : Part) (segment : List Char) : Except Fault Unit :=
  if segment = [] then .error (.emptySegment part)
  else if part = .preRelease ∧ segment.all Char.isDigit ∧ 1 < segment.length
      ∧ segment.head? = some '0' then
    .error (.leadingZero part)
  else .ok ()

/-- Segments that their part allows, one after the other. -/
def checkSegments (part : Part) : List (List Char) → Except Fault Unit
  | [] => .ok ()
  | segment :: rest =>
    match checkSegment part segment with
    | .error fault => .error fault
    | .ok () => checkSegments part rest

/-- Segments with points between them at the front of a text, and what follows them. -/
def segments (part : Part) (cs : List Char) :
    Except Fault (List (List Char) × List Char) :=
  let inside (c : Char) : Bool := isSegmentChar c || c == '.'
  let parts := (cs.takeWhile inside).splitOn '.'
  match checkSegments part parts with
  | .error fault => .error fault
  | .ok () => .ok (parts, cs.dropWhile inside)

/-- Segments after a mark, if the mark comes next. -/
def marked (mark : Char) (part : Part) (cs : List Char) :
    Except Fault (List (List Char) × List Char) :=
  match cs with
  | c :: rest => if c = mark then segments part rest else .ok ([], cs)
  | [] => .ok ([], [])

/-- The version that a list of scalar values writes. -/
def parseChars (cs : List Char) : Except Fault Version := do
  if cs = [] then throw .empty
  let (major, cs) ← number .major cs
  let cs ← dot .major cs
  let (minor, cs) ← number .minor cs
  let cs ← dot .minor cs
  let (patch, cs) ← number .patch cs
  let (preRelease, cs') ← marked '-' .preRelease cs
  let (build, rest) ← marked '+' .build cs'
  let last : Part := if build ≠ [] then .build else if preRelease ≠ [] then .preRelease else .patch
  match rest with
  | [] => return ⟨major, minor, patch, preRelease, build⟩
  | c :: _ => throw (.unexpectedAfter last c)

def parse (text : String) : Except Fault Version := parseChars text.toList

end ToolBootstrap.SemVer
