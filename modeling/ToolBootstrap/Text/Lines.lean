/- Lines of a text and the search for one text in another. -/

namespace ToolBootstrap

/-- The segments of a text between line feeds: one more than there are line feeds. -/
def segments (cs : List Char) : List (List Char) := cs.splitOn '\n'

/-- A line without the one carriage return that may end it. -/
def dropCarriageReturn (line : List Char) : List Char :=
  if line.getLast? = some '\r' then line.dropLast else line

/-- Lines end at a line feed, with or without a carriage return before it; a final line feed
starts no further line. A last line that no line feed ends keeps its carriage return. -/
def lines (cs : List Char) : List (List Char) :=
  let parts := segments cs
  let ended := parts.dropLast.map dropCarriageReturn
  match parts.getLast? with
  | none => ended
  | some last => if last.isEmpty then ended else ended ++ [last]

/-- Whether `part` stands in `whole` without a gap. -/
def occursIn (part : List Char) : List Char → Bool
  | [] => part.isEmpty
  | c :: rest => part.isPrefixOf (c :: rest) || occursIn part rest

def contains (text part : String) : Bool := occursIn part.toList text.toList

end ToolBootstrap
