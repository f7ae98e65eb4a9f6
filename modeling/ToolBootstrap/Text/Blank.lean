/- White space in the sense of the Unicode property White_Space, and trimming. -/

namespace ToolBootstrap

/-- The scalar values beyond Latin-1 that are white space, as closed ranges. -/
def blankRanges : List (Nat × Nat) :=
  [(0x1680, 0x1680), (0x2000, 0x200A), (0x2028, 0x2029), (0x202F, 0x202F), (0x205F, 0x205F),
   (0x3000, 0x3000)]

/-- Tab to carriage return, space, next line, no-break space, and the ranges above. -/
def isBlank (c : Char) : Bool :=
  let n := c.toNat
  (0x09 ≤ n && n ≤ 0x0D) || n == 0x20 || n == 0x85 || n == 0xA0 ||
    blankRanges.any fun r => r.1 ≤ n && n ≤ r.2

/-- A list of scalar values without its blank ends. -/
def trimChars (cs : List Char) : List Char :=
  ((cs.dropWhile isBlank).reverse.dropWhile isBlank).reverse

def trim (text : String) : String := String.ofList (trimChars text.toList)

def isAllBlank (text : String) : Bool := text.toList.all isBlank

def hasBlank (text : String) : Bool := text.toList.any isBlank

end ToolBootstrap
