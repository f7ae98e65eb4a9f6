import ToolBootstrap.Disk
import ToolBootstrap.Script.Syntax

/- What a running script reads and changes, and what its words expand to.

   A word expands to characters that know where they come from: fields are split only where an
   unquoted expansion gives a blank, and only an unquoted character is special in a pattern. A
   parameter that is not set expands to nothing. -/

namespace ToolBootstrap.Script

/-- What a stream is connected with. -/
inductive Sink where
  | output
  | errors
  | file (path : Path)
  | nowhere
  deriving DecidableEq, Repr

/-- Why commands are left before their end. -/
inductive Stop where
  | exit
  | killed
  | leaveLoop
  | nextRound
  deriving DecidableEq, Repr

structure State where
  disk : Disk
  /-- The name that the script was started by. -/
  name : Chars
  arguments : List Chars
  bindings : List (String × Chars)
  /-- The status of the last command. -/
  status : Nat
  /-- What can still be read. -/
  input : Chars
  stdout : Sink
  stderr : Sink
  /-- What has been written, the newest in front. -/
  written : List Chars
  complaints : List Chars

abbrev Action (α : Type) := ExceptT Stop (StateM State) α

def inOrder (texts : List Chars) : Chars := texts.reverse.flatten

def setStatus (status : Nat) : Action Unit := modify fun s => { s with status := status }

def assign (name : String) (value : Chars) : Action Unit :=
  modify fun s =>
    { s with bindings := (name, value) :: s.bindings.filter fun v => v.1 != name }

def emit (sink : Sink) (text : Chars) : Action Unit :=
  modify fun s => match sink with
    | .output => { s with written := text :: s.written }
    | .errors => { s with complaints := text :: s.complaints }
    | .file path => { s with disk := (s.disk.append path (toOctets text)).2 }
    | .nowhere => s

/-- Writes a complaint, and gives the status of what has failed. -/
def complain (status : Nat) (text : Chars) : Action Nat := do
  let s ← get
  emit s.stderr (s.name ++ [':', ' '] ++ text ++ ['\n'])
  return status

/-! ## Parameters -/

/-- The number that stands for the running process. -/
def processNumber : Chars := "1000".toList

def decimal (n : Int) : Chars := (toString n).toList

def number? (cs : Chars) : Option Int := (String.ofList cs).trimAscii.toString.toInt?

/-- The value of a parameter, if it has one. -/
def State.parameter? (s : State) (name : String) : Option Chars :=
  match name with
  | "#" => some (decimal s.arguments.length)
  | "?" => some (decimal s.status)
  | "$" => some processNumber
  | "0" => some s.name
  | "@" | "*" => some ([' '].intercalate s.arguments)
  | _ =>
    match name.toNat? with
    | some n => s.arguments[n - 1]?
    | none => s.bindings.lookup name

/-! ## Sums -/

/-- The operators of sums with their levels, longer ones before their beginnings. -/
def operators : List (String × Nat) :=
  [("<=", 1), (">=", 1), ("==", 0), ("!=", 0), ("<", 1), (">", 1), ("+", 2), ("-", 2), ("*", 3),
   ("/", 3), ("%", 3)]

def truth (b : Bool) : Int := if b then 1 else 0

/-- What an operator makes of two numbers; nothing divides by zero. -/
def combine (operator : String) (a b : Int) : Option Int :=
  match operator with
  | "+" => some (a + b)
  | "-" => some (a - b)
  | "*" => some (a * b)
  | "/" => if b = 0 then none else some (a.tdiv b)
  | "%" => if b = 0 then none else some (a.tmod b)
  | "==" => some (truth (a == b))
  | "!=" => some (truth (a != b))
  | "<" => some (truth (a < b))
  | "<=" => some (truth (a ≤ b))
  | ">" => some (truth (b < a))
  | ">=" => some (truth (b ≤ a))
  | _ => none

mutual

/-- The value of a sum of operators of at least some level, and what follows it. -/
def sumFrom (s : State) : Nat → Nat → Chars → Option (Int × Chars)
  | 0, _, _ => none
  | fuel + 1, level, cs => do
    let (first, rest) ← operand s fuel (cs.dropWhile isBlank)
    sumAfter s fuel level first (rest.dropWhile isBlank)

def sumAfter (s : State) : Nat → Nat → Int → Chars → Option (Int × Chars)
  | 0, _, _, _ => none
  | fuel + 1, level, left, cs =>
    match operators.find? fun o => o.1.toList.isPrefixOf cs && level ≤ o.2 with
    | none => some (left, cs)
    | some (operator, own) => do
      let (right, rest) ← sumFrom s fuel (own + 1) (cs.drop operator.length)
      sumAfter s fuel level (← combine operator left right) rest

def operand (s : State) : Nat → Chars → Option (Int × Chars)
  | 0, _ => none
  | fuel + 1, cs =>
    match cs with
    | '(' :: rest => do
      match ← sumFrom s fuel 0 rest with
      | (value, ')' :: rest) => some (value, rest)
      | _ => none
    | '-' :: rest => do
      let (value, rest) ← operand s fuel rest
      some (-value, rest)
    | _ => do
      let word := cs.takeWhile inName
      let rest := cs.drop word.length
      if word.head?.any Char.isDigit then some (← number? word, rest)
      else if word.isEmpty then none
      else
        match s.parameter? (String.ofList word) with
        | some value => some (← number? value, rest)
        | none => some (0, rest)

end

/-- A text with the values of its parameters in their place, within `fuel` characters. -/
def filled (s : State) : Nat → Chars → Chars
  | 0, cs => cs
  | _, [] => []
  | fuel + 1, '$' :: rest =>
    match afterDollar true rest with
    | some (.parameter _ name otherwise, after) =>
      (s.parameter? name).getD otherwise ++ filled s fuel after
    | _ => '$' :: filled s fuel rest
  | fuel + 1, c :: rest => c :: filled s fuel rest

def sum? (s : State) (source : Chars) : Option Int :=
  let source := filled s source.length source
  match sumFrom s (4 * source.length + 4) 0 source with
  | some (value, []) => some value
  | _ => none

/-! ## Expansion -/

/-- What a word expands to, one after the other. -/
inductive Mark where
  /-- A character; whether it was quoted, and whether fields are split at it. -/
  | char (c : Char) (quoted splits : Bool)
  /-- A field, even if nothing else is in it. -/
  | field
  /-- The end of a field. -/
  | next
  deriving DecidableEq, Repr

def valueMarks (quoted : Bool) (cs : Chars) : List Mark := cs.map fun c => .char c quoted (!quoted)

/-- What a piece expands to; `run` runs a script and gives its output. -/
def expandPiece (run : Chars → Action Chars) : Piece → Action (List Mark)
  | .char quoted c => return [.char c quoted false]
  | .quotes => return [.field]
  | .parameter quoted name otherwise => do
    let s ← get
    if name = "@" then return [Mark.next].intercalate (s.arguments.map (valueMarks quoted))
    let value := (s.parameter? name).getD []
    return valueMarks quoted (if value.isEmpty then otherwise else value)
  | .sum quoted source => do
    match sum? (← get) source with
    | some n => return valueMarks quoted (decimal n)
    | none =>
      setStatus (← complain 2 ("arithmetic expression: ".toList ++ source))
      throw .exit
  | .output quoted source => do
    let text ← run source
    return valueMarks quoted (text.reverse.dropWhile (· == '\n')).reverse

def expand (run : Chars → Action Chars) (w : Word) : Action (List Mark) := do
  return (← w.mapM (expandPiece run)).flatten

/-- The characters of an expansion, and whether they were quoted. -/
def charsOf (all : List Mark) : List (Bool × Char) :=
  all.filterMap fun
    | .char c quoted _ => some (quoted, c)
    | .next => some (true, ' ')
    | .field => none

/-- The fields of an expansion; `current` is the field that has begun, in reverse. -/
def fieldsFrom : Option Chars → List Mark → List Chars
  | current, [] => current.toList.map List.reverse
  | current, .field :: rest => fieldsFrom (some (current.getD [])) rest
  | current, .next :: rest => current.toList.map List.reverse ++ fieldsFrom none rest
  | current, .char c _ splits :: rest =>
    if splits && (isBlank c || c == '\n') then
      current.toList.map List.reverse ++ fieldsFrom none rest
    else fieldsFrom (some (c :: current.getD [])) rest

/-- The texts that a word expands to. The arguments in quotes are as many fields as there are. -/
def expandFields (run : Chars → Action Chars) (w : Word) : Action (List Chars) := do
  if w = [.quotes, .parameter true "@" []] then return (← get).arguments
  return fieldsFrom none (← expand run w)

def expandText (run : Chars → Action Chars) (w : Word) : Action Chars := do
  return (charsOf (← expand run w)).map Prod.snd

/-- Whether a pattern matches a whole text: an unquoted `*` stands for any characters, and an
unquoted `?` for one. -/
def matchesAll : List (Bool × Char) → Chars → Bool
  | [], cs => cs.isEmpty
  | (false, '*') :: rest, cs =>
    (List.range (cs.length + 1)).any fun n => matchesAll rest (cs.drop n)
  | (false, '?') :: rest, _ :: cs => matchesAll rest cs
  | (_, p) :: rest, c :: cs => p == c && matchesAll rest cs
  | _ :: _, [] => false

end ToolBootstrap.Script
