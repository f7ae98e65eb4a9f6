import ToolBootstrap.Toml.Value

/- Strings of a document: basic and literal ones, on one line or on several. -/

namespace ToolBootstrap.Toml

/-- Whether a character may stand in a string or comment as it is: a tab, or no control. -/
def isPlain (c : Char) : Bool := c == '\t' || (0x20 ≤ c.toNat && c.toNat ≠ 0x7F)

/-- What an escaped character stands for. -/
def escaped? : Char → Option Char
  | 'b' => some '\x08'
  | 't' => some '\t'
  | 'n' => some '\n'
  | 'f' => some '\x0c'
  | 'r' => some '\r'
  | 'e' => some '\x1b'
  | '"' => some '"'
  | '\\' => some '\\'
  | _ => none

def hexValue? (c : Char) : Option Nat :=
  if c.isDigit then some (c.toNat - '0'.toNat)
  else if 'a' ≤ c ∧ c ≤ 'f' then some (c.toNat - 'a'.toNat + 10)
  else if 'A' ≤ c ∧ c ≤ 'F' then some (c.toNat - 'A'.toNat + 10)
  else none

/-- The scalar value that hexadecimal digits number. -/
def scalar? (digits : List Char) : Option Char := do
  let values ← digits.mapM hexValue?
  let n := values.foldl (fun n d => n * 16 + d) 0
  if n < 0xD800 ∨ (0xDFFF < n ∧ n < 0x110000) then some (Char.ofNat n) else none

/-- A character in front of what the rest of a string gives. -/
def push (c : Char) : Option (List Char × List Char) → Option (List Char × List Char)
  | some (text, rest) => some (c :: text, rest)
  | none => none

/-- An escaped scalar value in front of what the rest of a string gives. -/
def pushScalar (digits : List Char) (more : Option (List Char × List Char)) :
    Option (List Char × List Char) :=
  match scalar? digits with
  | some c => push c more
  | none => none

/-- A basic string after its opening quote: its text, and what follows its closing quote. -/
def basic : List Char → Option (List Char × List Char)
  | '"' :: rest => some ([], rest)
  | '\\' :: 'x' :: a :: b :: rest => pushScalar [a, b] (basic rest)
  | '\\' :: 'u' :: a :: b :: c :: d :: rest => pushScalar [a, b, c, d] (basic rest)
  | '\\' :: 'U' :: a :: b :: c :: d :: e :: f :: g :: h :: rest =>
    pushScalar [a, b, c, d, e, f, g, h] (basic rest)
  | '\\' :: c :: rest =>
    match escaped? c with
    | some x => push x (basic rest)
    | none => none
  | c :: rest => if isPlain c ∧ c ≠ '\\' then push c (basic rest) else none
  | [] => none

/-- A literal string after its opening quote: its text, and what follows its closing quote. -/
def literal : List Char → Option (List Char × List Char)
  | '\'' :: rest => some ([], rest)
  | c :: rest => if isPlain c then push c (literal rest) else none
  | [] => none

def isGap (c : Char) : Bool := c == ' ' || c == '\t'

/-- Whether a line ends here, but for spaces and tabs. -/
def endsLine (cs : List Char) : Bool :=
  match cs.dropWhile isGap with
  | '\n' :: _ => true
  | '\r' :: '\n' :: _ => true
  | _ => false

/-- A basic string of several lines after its opening quotes. `skipping` holds after a backslash
at the end of a line: spaces, tabs and line feeds are dropped until something else comes. Up to
two quotes may stand right in front of the closing ones. -/
def basicLines (skipping : Bool) : List Char → Option (List Char × List Char)
  | '"' :: '"' :: '"' :: '"' :: '"' :: rest => some (['"', '"'], rest)
  | '"' :: '"' :: '"' :: '"' :: rest => some (['"'], rest)
  | '"' :: '"' :: '"' :: rest => some ([], rest)
  | '\r' :: '\n' :: rest =>
    if skipping then basicLines true rest else push '\r' (push '\n' (basicLines false rest))
  | '\n' :: rest => if skipping then basicLines true rest else push '\n' (basicLines false rest)
  | '\\' :: 'x' :: a :: b :: rest => pushScalar [a, b] (basicLines false rest)
  | '\\' :: 'u' :: a :: b :: c :: d :: rest => pushScalar [a, b, c, d] (basicLines false rest)
  | '\\' :: 'U' :: a :: b :: c :: d :: e :: f :: g :: h :: rest =>
    pushScalar [a, b, c, d, e, f, g, h] (basicLines false rest)
  | '\\' :: c :: rest =>
    match escaped? c with
    | some x => push x (basicLines false rest)
    | none => if endsLine (c :: rest) then basicLines true (c :: rest) else none
  | c :: rest =>
    if skipping && isGap c then basicLines true rest
    else if isPlain c ∧ c ≠ '\\' then push c (basicLines false rest)
    else none
  | [] => none

/-- A literal string of several lines after its opening quotes. -/
def literalLines : List Char → Option (List Char × List Char)
  | '\'' :: '\'' :: '\'' :: '\'' :: '\'' :: rest => some (['\'', '\''], rest)
  | '\'' :: '\'' :: '\'' :: '\'' :: rest => some (['\''], rest)
  | '\'' :: '\'' :: '\'' :: rest => some ([], rest)
  | '\r' :: '\n' :: rest => push '\r' (push '\n' (literalLines rest))
  | '\n' :: rest => push '\n' (literalLines rest)
  | c :: rest => if isPlain c then push c (literalLines rest) else none
  | [] => none

/-- A text without a line feed in front. -/
def dropLineFeed : List Char → List Char
  | '\n' :: rest => rest
  | '\r' :: '\n' :: rest => rest
  | cs => cs

/-- A string of any of the four forms, and what follows it. -/
def string? : List Char → Option (List Char × List Char)
  | '"' :: '"' :: '"' :: rest => basicLines false (dropLineFeed rest)
  | '"' :: rest => basic rest
  | '\'' :: '\'' :: '\'' :: rest => literalLines (dropLineFeed rest)
  | '\'' :: rest => literal rest
  | _ => none

end ToolBootstrap.Toml
