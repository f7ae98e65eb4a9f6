import ToolBootstrap.Toml.Number
import ToolBootstrap.Toml.Table
import ToolBootstrap.Toml.Text

/- Reading a document.

   A text is read into keys with values and section headers, line by line, and these build up one
   table. Each reading function returns what it read and the text that follows. Arrays and inline
   tables may be nested eighty deep. -/

namespace ToolBootstrap.Toml

/-- A reading function: what stands at the front of a text, and what follows it. -/
abbrev Reading (α : Type) := List Char → Option (α × List Char)

/-! ## Gaps -/

def skipGap (cs : List Char) : List Char := cs.dropWhile isGap

/-- The end of a comment, after its mark: everything up to the line feed has to be plain. -/
def skipComment : List Char → Option (List Char)
  | [] => some []
  | '\n' :: rest => some ('\n' :: rest)
  | '\r' :: '\n' :: rest => some ('\r' :: '\n' :: rest)
  | c :: rest => if isPlain c then skipComment rest else none

/-- What follows the end of a line, at most a comment before it. -/
def lineEnd (cs : List Char) : Option (List Char) :=
  let rest? :=
    match skipGap cs with
    | '#' :: more => skipComment more
    | more => some more
  match rest? with
  | some [] => some []
  | some ('\n' :: rest) => some rest
  | some ('\r' :: '\n' :: rest) => some rest
  | _ => none

/-- A text without spaces, tabs, line feeds and comments in front. -/
def skipLinesWithin : Nat → List Char → Option (List Char)
  | 0, cs => some cs
  | fuel + 1, cs =>
    match cs with
    | ' ' :: rest => skipLinesWithin fuel rest
    | '\t' :: rest => skipLinesWithin fuel rest
    | '\n' :: rest => skipLinesWithin fuel rest
    | '\r' :: '\n' :: rest => skipLinesWithin fuel rest
    | '#' :: rest =>
      match skipComment rest with
      | some more => skipLinesWithin fuel more
      | none => none
    | _ => some cs

/-- A text without spaces, tabs, line feeds and comments in front. -/
def skipLines (cs : List Char) : Option (List Char) := skipLinesWithin cs.length cs

/-! ## Keys -/

def isBareChar (c : Char) : Bool := c.isAlphanum || c == '_' || c == '-'

def keyPart : Reading String
  | '"' :: rest => (basic rest).map fun r => (String.ofList r.1, r.2)
  | '\'' :: rest => (literal rest).map fun r => (String.ofList r.1, r.2)
  | cs =>
    match cs.takeWhile isBareChar with
    | [] => none
    | name => some (String.ofList name, cs.dropWhile isBareChar)

/-- The parts of a key, at most `fuel` of them, with points between them. -/
def keyWithin : Nat → Reading (List String)
  | 0, _ => none
  | fuel + 1, cs =>
    match keyPart (skipGap cs) with
    | none => none
    | some (part, rest) =>
      match skipGap rest with
      | '.' :: more => (keyWithin fuel more).map fun r => (part :: r.1, r.2)
      | more => some ([part], more)

/-- A key: the parts in front of the last point, and the part after it. -/
def key (cs : List Char) : Option ((List String × String) × List Char) :=
  match keyWithin cs.length cs with
  | some (parts, rest) => parts.getLast?.map fun last => ((parts.dropLast, last), rest)
  | none => none

/-! ## Values -/

/-- The elements of an array after its opening bracket, or after a comma. -/
def itemsWithin (value : Reading Value) : Nat → Reading (List Value)
  | 0, _ => none
  | fuel + 1, cs =>
    match skipLines cs with
    | none => none
    | some (']' :: rest) => some ([], rest)
    | some start =>
      match value start with
      | none => none
      | some (item, after) =>
        match skipLines after with
        | some (',' :: rest) => (itemsWithin value fuel rest).map fun r => (item :: r.1, r.2)
        | some (']' :: rest) => some ([item], rest)
        | _ => none

def keyValue (value : Reading Value) (cs : List Char) : Option (KeyValue × List Char) :=
  match key cs with
  | some ((path, name), '=' :: rest) =>
    (value (skipGap rest)).map fun r => (⟨path, name, r.1⟩, r.2)
  | _ => none

/-- The keys of an inline table after its opening brace, or after a comma. -/
def pairsWithin (value : Reading Value) : Nat → Reading (List KeyValue)
  | 0, _ => none
  | fuel + 1, cs =>
    match skipLines cs with
    | none => none
    | some ('\x7d' :: rest) => some ([], rest)
    | some start =>
      match keyValue value start with
      | none => none
      | some (pair, after) =>
        match skipLines after with
        | some (',' :: rest) => (pairsWithin value fuel rest).map fun r => (pair :: r.1, r.2)
        | some ('\x7d' :: rest) => some ([pair], rest)
        | _ => none

/-- A value that is neither an array nor an inline table. -/
def plainValue (cs : List Char) : Option (Value × List Char) :=
  match cs with
  | '"' :: _ => (string? cs).map fun r => (.string (String.ofList r.1), r.2)
  | '\'' :: _ => (string? cs).map fun r => (.string (String.ofList r.1), r.2)
  | _ =>
    let (text, rest) := word cs
    (wordValue? text).map fun v => (v, rest)

/-- A value with arrays and inline tables nested at most `depth` deep. -/
def valueWithin : Nat → Reading Value
  | 0, cs =>
    match cs with
    | '[' :: _ => none
    | '\x7b' :: _ => none
    | _ => plainValue cs
  | depth + 1, cs =>
    match cs with
    | '[' :: rest =>
      (itemsWithin (valueWithin depth) (rest.length + 1) rest).map fun r =>
        (.array false r.1, r.2)
    | '\x7b' :: rest =>
      match pairsWithin (valueWithin depth) (rest.length + 1) rest with
      | none => none
      | some (pairs, after) =>
        (insertKeys .inline [] pairs).map fun entries => (.table .inline entries, after)
    | _ => plainValue cs

/-- How deep arrays and inline tables may be nested. -/
def depthLimit : Nat := 80

def value : Reading Value := valueWithin depthLimit

/-! ## Lines -/

/-- What a line of a document says. -/
inductive Statement where
  | pair (pair : KeyValue)
  | header (header : Header)
  deriving Repr

/-- A section header after its first bracket. -/
def header : Reading Header
  | '[' :: cs =>
    match key cs with
    | some ((path, name), ']' :: ']' :: rest) => some (⟨true, path, name⟩, rest)
    | _ => none
  | cs =>
    match key cs with
    | some ((path, name), ']' :: rest) => some (⟨false, path, name⟩, rest)
    | _ => none

/-- One statement without the end of its line. -/
def statement : Reading Statement
  | '[' :: cs => (header cs).map fun r => (.header r.1, r.2)
  | cs => (keyValue value cs).map fun r => (.pair r.1, r.2)

/-- The statements of a text of at most `fuel` lines. -/
def statementsWithin : Nat → List Char → Option (List Statement)
  | 0, _ => none
  | fuel + 1, cs =>
    match skipGap cs with
    | [] => some []
    | start =>
      match lineEnd start with
      | some rest => statementsWithin fuel rest
      | none =>
        match statement start with
        | none => none
        | some (said, after) =>
          match lineEnd after with
          | some rest => (statementsWithin fuel rest).map (said :: ·)
          | none => none

/-- Keys in front of the first section, and the sections with their keys. -/
def sections : List Statement → List KeyValue × List (Header × List KeyValue)
  | [] => ([], [])
  | .pair pair :: rest =>
    let (pairs, later) := sections rest
    (pair :: pairs, later)
  | .header header :: rest =>
    let (pairs, later) := sections rest
    ([], (header, pairs) :: later)

/-- The entries that statements build up. -/
def build (statements : List Statement) : Option Entries :=
  let (pairs, later) := sections statements
  match insertKeys .header [] pairs with
  | some root => insertSections root later
  | none => none

/-- The entries of a document, after an optional byte order mark. -/
def readChars (cs : List Char) : Option Entries :=
  let body := if cs.head? = some '\uFEFF' then cs.drop 1 else cs
  match statementsWithin (body.length + 1) body with
  | some statements => build statements
  | none => none

def read (text : String) : Option Entries := readChars text.toList

end ToolBootstrap.Toml
