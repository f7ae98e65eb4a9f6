import ToolBootstrap.Toml.Text
import ToolBootstrap.Text.Quoted

/- Writing strings of a document.

   A string is written in the first form that can hold it as it is: basic, literal, basic over
   several lines, literal over several lines; where none can, escapes are used. -/

namespace ToolBootstrap.Toml

/-- Whether a character is a control that no form holds as it is; tabs and line feeds are left
out. -/
def isHardControl (c : Char) : Bool :=
  (c.toNat < 0x20 && c ≠ '\t' && c ≠ '\n') || c.toNat == 0x7F

/-- The greatest number of copies of a character that stand next to each other. -/
def longestRun (mark : Char) : Nat → List Char → Nat
  | _, [] => 0
  | current, c :: rest =>
    if c = mark then max (current + 1) (longestRun mark (current + 1) rest)
    else longestRun mark 0 rest

inductive Form where
  | basic
  | literal
  | basicLines
  | literalLines
  deriving DecidableEq, Repr

/-- The form that a text is written in. -/
def formOf (cs : List Char) : Form :=
  let lined := cs.contains '\n'
  let hard := cs.any isHardControl
  if !cs.contains '"' && !cs.contains '\\' && !lined && !hard then .basic
  else if !cs.contains '\'' && !lined && !hard then .literal
  else if !cs.contains '\\' && !hard && longestRun '"' 0 cs < 3 then .basicLines
  else if !hard && longestRun '\'' 0 cs < 3 then .literalLines
  else if lined then .basicLines
  else .basic

/-- The escape of a control character. -/
def escapeControl (c : Char) : List Char :=
  if c = '\x08' then ['\\', 'b']
  else if c = '\t' then ['\\', 't']
  else if c = '\n' then ['\\', 'n']
  else if c = '\x0c' then ['\\', 'f']
  else if c = '\r' then ['\\', 'r']
  else ['\\', 'u', '0', '0'] ++ Quoted.hexOctet (UInt8.ofNat c.toNat)

def isControl (c : Char) : Bool := c.toNat < 0x20 || c.toNat == 0x7F

/-- The text of a basic string between its quotes. -/
def basicBody (cs : List Char) : List Char :=
  cs.flatMap fun c =>
    if c = '"' ∨ c = '\\' then ['\\', c]
    else if isControl c then escapeControl c
    else [c]

/-- The text of a basic string of several lines. `quotes` counts the quotes just written: the third
in a row is escaped, which starts the count anew. -/
def basicLinesBody : Nat → List Char → List Char
  | _, [] => []
  | quotes, c :: rest =>
    if c = '"' then
      if quotes = 2 then '\\' :: '"' :: basicLinesBody 0 rest
      else '"' :: basicLinesBody (quotes + 1) rest
    else if c = '\\' then '\\' :: '\\' :: basicLinesBody 0 rest
    else if c = '\n' then '\n' :: basicLinesBody 0 rest
    else if isControl c then escapeControl c ++ basicLinesBody 0 rest
    else c :: basicLinesBody 0 rest

/-- The line feed after the opening quotes of a string that has one of its own. -/
def firstLineFeed (cs : List Char) : List Char := if cs.contains '\n' then ['\n'] else []

/-- A string as a document holds it. -/
def writeChars (cs : List Char) : List Char :=
  match formOf cs with
  | .basic => '"' :: basicBody cs ++ ['"']
  | .literal => '\'' :: cs ++ ['\'']
  | .basicLines => ['"', '"', '"'] ++ firstLineFeed cs ++ basicLinesBody 0 cs ++ ['"', '"', '"']
  | .literalLines => ['\'', '\'', '\''] ++ firstLineFeed cs ++ cs ++ ['\'', '\'', '\'']

end ToolBootstrap.Toml
