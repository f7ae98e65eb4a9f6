/- Octets and the UTF-8 encoding.

   The operating system hands over octets: paths, environment values, file contents and command
   output. A text is decoded one octet at a time; what cannot be part of any scalar value is kept
   as a broken piece, so that the three readings below agree on where text ends: `decode?`
   refuses broken pieces, `lossy` writes one replacement character for each of them, and a quoted
   form can show the octets themselves. -/

namespace ToolBootstrap

abbrev Bytes := List UInt8

namespace Utf8

/-- A maximal unit of an octet run: one scalar value, or octets that encode none. -/
inductive Piece where
  | scalar (c : Char)
  | broken (octets : Bytes)
  deriving DecidableEq, Repr

/-- A scalar value whose octets have begun but not ended: the octets seen, the bits gathered, how
many octets are still owed after the next one, and the window the next one must lie in. -/
structure Pending where
  seen : Bytes
  bits : Nat
  owed : Nat
  low : UInt8
  high : UInt8
  deriving DecidableEq, Repr

/-- What an octet starts when nothing is pending: a whole scalar value, a longer one, or nothing. -/
def start (b : UInt8) : List Piece × Option Pending :=
  if b ≤ 0x7F then ([.scalar (Char.ofNat b.toNat)], none)
  else if 0xC2 ≤ b ∧ b ≤ 0xDF then ([], some ⟨[b], b.toNat - 0xC0, 0, 0x80, 0xBF⟩)
  else if b = 0xE0 then ([], some ⟨[b], 0, 1, 0xA0, 0xBF⟩)
  else if b = 0xED then ([], some ⟨[b], 0xD, 1, 0x80, 0x9F⟩)
  else if 0xE1 ≤ b ∧ b ≤ 0xEF then ([], some ⟨[b], b.toNat - 0xE0, 1, 0x80, 0xBF⟩)
  else if b = 0xF0 then ([], some ⟨[b], 0, 2, 0x90, 0xBF⟩)
  else if 0xF1 ≤ b ∧ b ≤ 0xF3 then ([], some ⟨[b], b.toNat - 0xF0, 2, 0x80, 0xBF⟩)
  else if b = 0xF4 then ([], some ⟨[b], 4, 2, 0x80, 0x8F⟩)
  else ([.broken [b]], none)

/-- One octet further: it continues what is pending, or ends it broken and starts anew. -/
def step (pending : Option Pending) (b : UInt8) : List Piece × Option Pending :=
  match pending with
  | none => start b
  | some p =>
    if p.low ≤ b ∧ b ≤ p.high then
      let bits := p.bits * 64 + (b.toNat - 0x80)
      match p.owed with
      | 0 => ([.scalar (Char.ofNat bits)], none)
      | owed + 1 => ([], some ⟨p.seen ++ [b], bits, owed, 0x80, 0xBF⟩)
    else
      (.broken p.seen :: (start b).1, (start b).2)

/-- The pieces of the octets that follow a pending scalar value. -/
def piecesFrom : Option Pending → Bytes → List Piece
  | none, [] => []
  | some p, [] => [.broken p.seen]
  | pending, b :: rest => (step pending b).1 ++ piecesFrom (step pending b).2 rest

def pieces (octets : Bytes) : List Piece := piecesFrom none octets

/-- The text that an octet run encodes, if it encodes one. -/
def decode? (octets : Bytes) : Option String :=
  let scalar? : Piece → Option Char
    | .scalar c => some c
    | .broken _ => none
  ((pieces octets).mapM scalar?).map String.ofList

/-- The text of an octet run with one U+FFFD for each broken piece. -/
def lossy (octets : Bytes) : String :=
  let visible : Piece → Char
    | .scalar c => c
    | .broken _ => '\uFFFD'
  String.ofList ((pieces octets).map visible)

def encodeChars (cs : List Char) : Bytes := cs.flatMap String.utf8EncodeChar

def encode (text : String) : Bytes := encodeChars text.toList

@[simp] theorem encodeChars_nil : encodeChars [] = [] := rfl

@[simp] theorem encodeChars_append (s t : List Char) :
    encodeChars (s ++ t) = encodeChars s ++ encodeChars t := by
  simp [encodeChars]

@[simp] theorem encode_append (s t : String) : encode (s ++ t) = encode s ++ encode t := by
  simp [encode]

end Utf8

end ToolBootstrap
