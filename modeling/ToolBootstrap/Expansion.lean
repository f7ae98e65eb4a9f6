import ToolBootstrap.Environment
import ToolBootstrap.Text.Alphanumeric

/- Variables and the home directory in a configured directory.

   Variables are replaced first, and what they stand for is not looked at again. Then a `~` in
   front, alone or before a slash, becomes the home directory; one that came out of a variable
   does not. -/

namespace ToolBootstrap.Expansion

/-- A variable that has no text. -/
structure Fault where
  name : String
  cause : Unreadable
  deriving DecidableEq, Repr

def Fault.message (fault : Fault) : String :=
  "error looking key '" ++ fault.name ++ "' up: " ++ fault.cause.message

/-- What a name after a dollar sign is made of. -/
def isNameChar (c : Char) : Bool := isAlphanumeric c || c == '_'

/-- The text in front of the first `:-`, and the text after it. -/
def splitDefault? : List Char → Option (List Char × List Char)
  | ':' :: '-' :: rest => some ([], rest)
  | c :: rest => (splitDefault? rest).map fun r => (c :: r.1, r.2)
  | [] => none

/-- The name between braces, and the default after it; a default needs a name. -/
def nameAndDefault (inside : List Char) : List Char × Option (List Char) :=
  match splitDefault? inside with
  | some ([], _) => (inside, none)
  | some (name, default) => (name, some default)
  | none => (inside, none)

/-- The text of a variable, or the default. -/
def value (env : Environment) (name : List Char) (default : Option (List Char)) :
    Except Fault (List Char) :=
  match env.text? (String.ofList name), default with
  | .ok text, _ => .ok text.toList
  | .error _, some text => .ok text
  | .error cause, none => .error ⟨String.ofList name, cause⟩

/-- What the text after a dollar sign stands for, and the text that follows. -/
def dollar (env : Environment) : List Char → Except Fault (List Char × List Char)
  | '{' :: rest =>
    if rest.contains '}' then
      let (name, default) := nameAndDefault (rest.takeWhile (· ≠ '}'))
      match value env name default with
      | .error fault => .error fault
      | .ok text => .ok (text, (rest.dropWhile (· ≠ '}')).drop 1)
    else .ok (['$', '{'], rest)
  | '$' :: rest => .ok (['$'], rest)
  | rest =>
    match rest.takeWhile isNameChar with
    | [] => .ok (['$'], rest)
    | name =>
      match value env name none with
      | .error fault => .error fault
      | .ok text => .ok (text, rest.dropWhile isNameChar)

/-- Variables replaced in a text of at most `fuel` scalar values. -/
def variablesWithin (env : Environment) : Nat → List Char → Except Fault (List Char)
  | 0, _ => .ok []
  | _, [] => .ok []
  | fuel + 1, '$' :: rest =>
    match dollar env rest with
    | .error fault => .error fault
    | .ok (text, after) => (variablesWithin env fuel after).map (text ++ ·)
  | fuel + 1, c :: rest => (variablesWithin env fuel rest).map (c :: ·)

def expandVariables (env : Environment) (cs : List Char) : Except Fault (List Char) :=
  variablesWithin env cs.length cs

/-- A `~` in front, alone or before a slash, replaced by the home directory. -/
def tilde (home : List Char) : List Char → List Char
  | ['~'] => home
  | '~' :: '/' :: rest => home ++ '/' :: rest
  | cs => cs

/-- Variables and the home directory replaced in a text. -/
def expand (env : Environment) (home : Path) (text : String) : Except Fault String :=
  match expandVariables env text.toList with
  | .error fault => .error fault
  | .ok cs =>
    .ok (String.ofList (if text.toList.head? = some '~' then tilde home.display.toList cs else cs))

/-- The directory that a text names: what is not absolute lies below the home directory. -/
def directory (env : Environment) (home : Path) (text : String) : Except Fault Path :=
  (expand env home text).map fun expanded => home.join (Path.ofText expanded)

end ToolBootstrap.Expansion
