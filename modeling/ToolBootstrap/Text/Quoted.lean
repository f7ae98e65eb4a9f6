import ToolBootstrap.Text.Utf8
import ToolBootstrap.Text.Printable

/- Quoted forms, as messages show names and paths.

   A quoted text stands between double quotes; a quote, a backslash and everything that would not
   be seen is escaped. Octets that encode no scalar value are shown in hexadecimal. -/

namespace ToolBootstrap.Quoted

/-- The digits of a number in base sixteen, in lower case, without leading zeros. -/
def hexDigits (n : Nat) : List Char := Nat.toDigits 16 n

/-- An octet as two upper-case hexadecimal digits. -/
def hexOctet (b : UInt8) : List Char :=
  let digit (n : Nat) : Char := if n < 10 then Char.ofNat (48 + n) else Char.ofNat (55 + n)
  [digit (b.toNat / 16), digit (b.toNat % 16)]

/-- The written form of one scalar value; `quote` is the mark that has to be escaped. -/
def escape (quote c : Char) : List Char :=
  if c = '\x00' then ['\\', '0']
  else if c = '\t' then ['\\', 't']
  else if c = '\r' then ['\\', 'r']
  else if c = '\n' then ['\\', 'n']
  else if c = '\\' then ['\\', '\\']
  else if c = quote then ['\\', quote]
  else if isPrintable c then [c]
  else ['\\', 'u', '\x7b'] ++ hexDigits c.toNat ++ ['\x7d']

/-- A text between double quotes. -/
def text (s : String) : String :=
  String.ofList ('"' :: s.toList.flatMap (escape '"') ++ ['"'])

/-- One scalar value between single quotes. -/
def char (c : Char) : String := String.ofList ('\'' :: escape '\'' c ++ ['\''])

/-- The written form of a piece of an octet run. -/
def escapePiece : Utf8.Piece → List Char
  | .scalar c => escape '"' c
  | .broken octets => octets.flatMap fun b => ['\\', 'x'] ++ hexOctet b

def octets (run : Bytes) : String :=
  String.ofList ('"' :: (Utf8.pieces run).flatMap escapePiece ++ ['"'])

end ToolBootstrap.Quoted
