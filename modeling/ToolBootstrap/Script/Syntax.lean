import ToolBootstrap.Text.Utf8

/- Shell scripts as they are read: words made of pieces, and commands made of words.

   Scripts belong to the outer layer, as the program's entry does: they stand in for the commands of a
   host, and nothing is proved about them. So this is only the part of the shell's language that such
   commands are written in: simple commands with redirections, lists, the compound commands,
   parameters, sums and the output of commands within words.

   A script is handled one octet at a time, and an octet as the character of the same number, so that
   the marks of the language are character literals and every octet string is still a text. -/

namespace ToolBootstrap.Script

/-- Octets, each as the character of the same number. -/
abbrev Chars := List Char

def ofOctets (octets : Bytes) : Chars := octets.map fun b => Char.ofNat b.toNat

def toOctets (cs : Chars) : Bytes := cs.map fun c => UInt8.ofNat c.toNat

/-- A piece of a word. What is nested in it is kept as it was written, and read when it is
expanded. -/
inductive Piece where
  | char (quoted : Bool) (c : Char)
  /-- Quotes make a field even where nothing stands between them. -/
  | quotes
  /-- The value of a parameter, or another text where it has none. -/
  | parameter (quoted : Bool) (name : String) (otherwise : Chars)
  | sum (quoted : Bool) (source : Chars)
  | output (quoted : Bool) (source : Chars)
  deriving DecidableEq, Repr

abbrev Word := List Piece

/-- A stream, the mark that redirects it, and where to. -/
structure Redirection where
  stream : Nat
  mark : String
  target : Word
  deriving DecidableEq, Repr

inductive Command where
  | nothing
  | simple (assignments : List (String × Word)) (words : List Word)
  | redirected (inner : Command) (redirections : List Redirection)
  | negation (inner : Command)
  | sequence (first second : Command)
  | both (first second : Command)
  | either (first second : Command)
  | branch (condition yes no : Command)
  | loop (untilTrue : Bool) (condition body : Command)
  | forEach (name : String) (words : Option (List Word)) (body : Command)
  | select (subject : Word) (patterns : List Word) (body others : Command)
  | subshell (inner : Command)
  deriving Repr

/-! ## From characters to words and marks -/

inductive Token where
  | word (w : Word)
  | mark (text : String)
  | redirection (stream : Nat) (mark : String)
  deriving DecidableEq, Repr

def isBlank (c : Char) : Bool := c == ' ' || c == '\t'

/-- Whether a character ends an unquoted word. -/
def endsWord (c : Char) : Bool :=
  [' ', '\t', '\n', ';', '&', '|', '<', '>', '(', ')'].contains c

def startsName (c : Char) : Bool := c.isAlpha || c == '_'

def inName (c : Char) : Bool := c.isAlphanum || c == '_'

/-- The text up to a character, and what follows it. -/
def upTo (mark : Char) : Chars → Option (Chars × Chars)
  | [] => none
  | c :: rest =>
    if c = mark then some ([], rest) else (upTo mark rest).map fun r => (c :: r.1, r.2)

/-- The text up to the bracket that closes a nesting of some depth, and what follows it. -/
def enclosed : Nat → Chars → Option (Chars × Chars)
  | _, [] => none
  | depth, c :: rest =>
    let further (depth : Nat) := (enclosed depth rest).map fun r => (c :: r.1, r.2)
    if c = ')' then if depth ≤ 1 then some ([], rest) else further (depth - 1)
    else if c = '(' then further (depth + 1)
    else further depth

/-- The piece that a dollar sign starts, and what follows it. -/
def afterDollar (quoted : Bool) : Chars → Option (Piece × Chars)
  | '(' :: '(' :: rest => do
    let (source, after) ← enclosed 2 rest
    return (.sum quoted source.dropLast, after)
  | '(' :: rest => do
    let (source, after) ← enclosed 1 rest
    return (.output quoted source, after)
  | '\x7b' :: rest => do
    let (inside, after) ← upTo '\x7d' rest
    let name := inside.takeWhile fun c => c ≠ ':' && c ≠ '-'
    let otherwise := (inside.drop name.length).dropWhile fun c => c == ':' || c == '-'
    return (.parameter quoted (String.ofList name) otherwise, after)
  | c :: rest =>
    if startsName c then
      let name := (c :: rest).takeWhile inName
      some (.parameter quoted (String.ofList name) [], (c :: rest).drop name.length)
    else if c.isDigit || ['@', '*', '#', '?', '$'].contains c then
      some (.parameter quoted (String.singleton c) [], rest)
    else some (.char quoted '$', c :: rest)
  | [] => some (.char quoted '$', [])

/-- The pieces up to the closing double quote and what follows it, within `fuel` characters. -/
def quotedPieces : Nat → Chars → Option (Word × Chars)
  | 0, _ => none
  | _ + 1, [] => none
  | _ + 1, '\x22' :: rest => some ([], rest)
  | fuel + 1, '\\' :: c :: rest => do
    let kept := if ['$', '\x60', '\\', '\x22'].contains c then [c] else ['\\', c]
    let (pieces, after) ← quotedPieces fuel rest
    return ((if c = '\n' then [] else kept.map (.char true)) ++ pieces, after)
  | fuel + 1, '$' :: rest => do
    let (piece, rest) ← afterDollar true rest
    let (pieces, after) ← quotedPieces fuel rest
    return (piece :: pieces, after)
  | fuel + 1, c :: rest => do
    let (pieces, after) ← quotedPieces fuel rest
    return (.char true c :: pieces, after)

/-- The pieces of a word and what follows it, within `fuel` characters. -/
def wordPieces : Nat → Chars → Option (Word × Chars)
  | 0, _ => none
  | _ + 1, [] => some ([], [])
  | fuel + 1, c :: rest => do
    if endsWord c then return ([], c :: rest)
    let (front, rest) ← match c, rest with
      | '\\', d :: rest => some (if d = '\n' then [] else [.char true d], rest)
      | '\x27', _ => (upTo '\x27' rest).map fun r => (.quotes :: r.1.map (.char true), r.2)
      | '\x22', _ => (quotedPieces fuel rest).map fun r => (.quotes :: r.1, r.2)
      | '$', _ => (afterDollar false rest).map fun r => ([r.1], r.2)
      | _, _ => some ([.char false c], rest)
    let (pieces, after) ← wordPieces fuel rest
    return (front ++ pieces, after)

/-- The marks of the language, longer ones before their beginnings. -/
def marks : List String := [";;", "&&", "||", ";", "|", "&", "(", ")", "\n"]

def redirecting : List String := [">>", ">&", "<&", ">", "<"]

/-- The words and marks of a script, within `fuel` characters. -/
def tokens : Nat → Chars → Option (List Token)
  | 0, _ => none
  | _ + 1, [] => some []
  | fuel + 1, c :: rest => do
    let all := c :: rest
    let digits := all.takeWhile Char.isDigit
    if isBlank c then tokens fuel rest
    else if c = '#' then tokens fuel (rest.dropWhile (· ≠ '\n'))
    else if ['\\', '\n'].isPrefixOf all then tokens fuel rest.tail
    else match marks.find? fun m => m.toList.isPrefixOf all with
    | some m => return .mark m :: (← tokens fuel (all.drop m.length))
    | none =>
      match redirecting.find? fun m => m.toList.isPrefixOf (all.drop digits.length) with
      | some m =>
        let usual := if m.startsWith "<" then 0 else 1
        let stream := (String.ofList digits).toNat?.getD usual
        return .redirection stream m :: (← tokens fuel (all.drop (digits.length + m.length)))
      | none =>
        let (word, rest) ← wordPieces fuel all
        return .word word :: (← tokens fuel rest)

/-! ## From words and marks to commands -/

/-- Reads from the tokens that are left. -/
abbrev Reader (α : Type) := StateT (List Token) Option α

/-- The character that a piece is, unless it is quoted. -/
def Piece.bare? : Piece → Option Char
  | .char false c => some c
  | _ => none

/-- The text of a word without quotes and expansions. -/
def bare? (w : Word) : Option String := (w.mapM Piece.bare?).map String.ofList

/-- The name and the word of an assignment. -/
def assignment? (w : Word) : Option (String × Word) := do
  let (name, value) := w.span fun piece => piece.bare?.any inName
  match value, ← bare? name with
  | .char false '=' :: value, name =>
    if name.toList.head?.any startsName then some (name, value) else none
  | _, _ => none

/-- The reserved words and marks that can only stand behind a list of commands. -/
def closers : List String :=
  ["do", "done", "elif", "else", "esac", "fi", "then", "\x7d", ")", ";;"]

def Token.text? : Token → Option String
  | .mark text => some text
  | .word w => bare? w
  | .redirection .. => none

namespace Reader

def nextText? : Reader (Option String) := do return (← get).head?.bind Token.text?

/-- Takes a mark or a bare word of this text, if it comes next. -/
def take (text : String) : Reader Bool := do
  if (← nextText?) = some text then
    modify List.tail
    return true
  else return false

/-- Takes a mark or a bare word that has to come next. -/
def demand (text : String) : Reader Unit := do
  if !(← take text) then failure

def word? : Reader (Option Word) := do
  match ← get with
  | .word w :: rest =>
    set rest
    return some w
  | _ => return none

def skip (text : String) : Nat → Reader Unit
  | 0 => return ()
  | fuel + 1 => do if ← take text then skip text fuel

def newlines : Reader Unit := do skip "\n" (← get).length

def words : Nat → Reader (List Word)
  | 0 => return []
  | fuel + 1 => do
    match ← word? with
    | some w => return w :: (← words fuel)
    | none => return []

/-- Takes a redirection, if one comes next; a target has to follow it. -/
def redirection? : Reader (Option Redirection) := do
  match ← get with
  | .redirection stream mark :: .word target :: rest =>
    set rest
    return some ⟨stream, mark, target⟩
  | .redirection .. :: _ => failure
  | _ => return none

/-- Takes words and redirections, within `fuel` of them. -/
def parts : Nat → Reader (List Word × List Redirection)
  | 0 => return ([], [])
  | fuel + 1 => do
    match ← redirection? with
    | some r =>
      let (words, redirections) ← parts fuel
      return (words, r :: redirections)
    | none =>
      match ← word? with
      | some w =>
        let (words, redirections) ← parts fuel
        return (w :: words, redirections)
      | none => return ([], [])

def withRedirections (inner : Command) : List Redirection → Command
  | [] => inner
  | all => .redirected inner all

def simple : Reader Command := do
  let (words, redirections) ← parts (← get).length
  if words.isEmpty && redirections.isEmpty then failure
  let assignments := (words.map assignment?).takeWhile Option.isSome
  return withRedirections
    (.simple (assignments.filterMap id) (words.drop assignments.length)) redirections

/-- Takes patterns with bars between them and the bracket behind them, within `fuel` of them. -/
def patterns : Nat → Reader (List Word)
  | 0 => failure
  | fuel + 1 => do
    match ← word? with
    | none => failure
    | some first =>
      if ← take "|" then return first :: (← patterns fuel)
      demand ")"
      return [first]

mutual

/-- Takes commands up to a token that can only stand behind them. -/
def commands : Nat → Reader Command
  | 0 => failure
  | fuel + 1 => do
    newlines
    match ← nextText? with
    | some text => if closers.contains text then return .nothing
    | none => if (← get).isEmpty then return .nothing
    let first ← joined fuel (← pipeline fuel)
    if (← take ";") || (← take "\n") then return .sequence first (← commands fuel)
    else return first

/-- Takes what is joined to a command by `&&` and `||`. -/
def joined : Nat → Command → Reader Command
  | 0, _ => failure
  | fuel + 1, first => do
    if ← take "&&" then
      newlines
      joined fuel (.both first (← pipeline fuel))
    else if ← take "||" then
      newlines
      joined fuel (.either first (← pipeline fuel))
    else return first

def pipeline : Nat → Reader Command
  | 0 => failure
  | fuel + 1 => do
    if ← take "!" then return .negation (← command fuel) else command fuel

def command : Nat → Reader Command
  | 0 => failure
  | fuel + 1 => do
    let inner ←
      if ← take "if" then conditional fuel
      else if ← take "while" then loop fuel false
      else if ← take "until" then loop fuel true
      else if ← take "for" then forLoop fuel
      else if ← take "case" then
        let subject ← word?
        newlines
        demand "in"
        branches fuel (subject.getD [])
      else if ← take "\x7b" then
        let inner ← commands fuel
        demand "\x7d"
        pure inner
      else if ← take "(" then
        let inner ← commands fuel
        demand ")"
        pure (.subshell inner)
      else return ← simple
    let (words, redirections) ← parts (← get).length
    if words.isEmpty then return withRedirections inner redirections else failure

def conditional : Nat → Reader Command
  | 0 => failure
  | fuel + 1 => do
    let condition ← commands fuel
    demand "then"
    let yes ← commands fuel
    if ← take "elif" then return .branch condition yes (← conditional fuel)
    let no ← if ← take "else" then commands fuel else pure .nothing
    demand "fi"
    return .branch condition yes no

def loop : Nat → Bool → Reader Command
  | 0, _ => failure
  | fuel + 1, untilTrue => do
    let condition ← commands fuel
    return .loop untilTrue condition (← loopBody fuel)

def forLoop : Nat → Reader Command
  | 0 => failure
  | fuel + 1 => do
    let name := ((← word?).bind bare?).getD ""
    newlines
    let all ← if ← take "in" then some <$> words (← get).length else pure none
    let _ ← take ";"
    newlines
    return .forEach name all (← loopBody fuel)

def loopBody : Nat → Reader Command
  | 0 => failure
  | fuel + 1 => do
    demand "do"
    let body ← commands fuel
    demand "done"
    return body

/-- Takes the branches of a selection. -/
def branches : Nat → Word → Reader Command
  | 0, _ => failure
  | fuel + 1, subject => do
    newlines
    if ← take "esac" then return .nothing
    let _ ← take "("
    let all ← patterns fuel
    let body ← commands fuel
    if ← take ";;" then return .select subject all body (← branches fuel subject)
    demand "esac"
    return .select subject all body .nothing

end

end Reader

/-- The commands of a script, if it can be read. -/
def read? (source : Chars) : Option Command := do
  let all ← tokens (source.length + 1) source
  match (Reader.commands (16 * all.length + 16)).run all with
  | some (command, []) => some command
  | _ => none

end ToolBootstrap.Script
