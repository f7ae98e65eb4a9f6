import ToolBootstrap.Decimal.Power
import ToolBootstrap.Decimal.Shortest
import ToolBootstrap.Text.Quoted

/- Values of a TOML document.

   A table remembers how it came about, because that decides what may still be added to it; an
   array remembers whether it is made of `[[name]]` sections. -/

namespace ToolBootstrap.Toml

/-- How a table came about. -/
inductive TableKind where
  /-- Written between braces: nothing can be added. -/
  | inline
  /-- Opened by a section header. -/
  | header
  /-- Named on the way to a section below it. -/
  | implied
  /-- Named by a dotted key. -/
  | dotted
  deriving DecidableEq, Repr

/-- The size of a floating point number. -/
inductive Magnitude where
  | finite (number : Decimal.Binary)
  | infinite
  | notANumber
  deriving DecidableEq, Repr

structure FloatValue where
  negative : Bool
  magnitude : Magnitude
  deriving DecidableEq, Repr

/-- The shortest positional text of a floating point number, always with a point. -/
def FloatValue.text (f : FloatValue) : String :=
  let sign := if f.negative then "-" else ""
  match f.magnitude with
  | .finite number => sign ++ (Decimal.shortest number).positional
  | .infinite => sign ++ "inf"
  | .notANumber => "NaN"

inductive Value where
  | string (text : String)
  | integer (number : Int)
  | float (number : FloatValue)
  | boolean (value : Bool)
  | datetime
  | array (ofTables : Bool) (items : List Value)
  | table (kind : TableKind) (entries : List (String × Value))
  deriving Repr

/-- Keys and their values, in the order in which they were added. -/
abbrev Entries := List (String × Value)

/-- The entries with the value of a key that is there replaced. -/
def Entries.replace (entries : Entries) (key : String) (value : Value) : Entries :=
  entries.map fun e => if e.1 = key then (key, value) else e

def Value.kindName : Value → String
  | .string _ => "string"
  | .integer _ => "integer"
  | .float _ => "float"
  | .boolean _ => "boolean"
  | .datetime => "datetime"
  | .array .. => "array"
  | .table .. => "table"

end ToolBootstrap.Toml
