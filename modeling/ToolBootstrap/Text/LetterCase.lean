/- Lower case.

   The names compared through it are made of ASCII letters. Beyond ASCII only two scalar values
   have a lower case that holds an ASCII letter: the capital I with a dot, and the Kelvin sign. All
   others stay what they are here, which is enough for such a comparison. -/

namespace ToolBootstrap

/-- The lower case of one scalar value. -/
def lowerChar (c : Char) : List Char :=
  if c = '\u0130' then ['i', '\u0307']
  else if c = '\u212A' then ['k']
  else [c.toLower]

def lowerCase (text : String) : String := String.ofList (text.toList.flatMap lowerChar)

end ToolBootstrap
