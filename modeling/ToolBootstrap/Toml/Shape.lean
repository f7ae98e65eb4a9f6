import ToolBootstrap.Toml.Value

/- Fitting values of a document to what is expected of them.

   A record may be written as a table or as an array of its fields in their order; further keys and
   further elements are ignored. A date counts as a table without known keys. The fields of a
   table are fitted in the alphabetical order of their keys, and missing ones are reported after
   that. -/

namespace ToolBootstrap.Toml

/-- Why a value does not fit. -/
inductive Misfit where
  /-- A value of another type. -/
  | wrongType (found : Value) (expected : String)
  /-- An integer out of range. -/
  | wrongNumber (found : Int) (expected : String)
  /-- A record written as too short an array. -/
  | tooShort (length : Nat) (expected : String)
  /-- A table without a required key. -/
  | missingField (name : String)
  /-- A word that is none of the expected ones. -/
  | unknownWord (found : String) (expected : List String)
  /-- A word with a value below it that is not an empty table. -/
  | wordWithValue (found : Value)
  /-- A word written as a table without keys, or with several. -/
  | wordAsTable (several : Bool)
  /-- A word written as something that holds no word. -/
  | noWord
  deriving Repr

/-- How a value that was not expected is described. -/
def Value.described : Value → String
  | .string text => "string " ++ Quoted.text text
  | .integer n =>
    let wide :=
      if -(twoTo 63 : Int) ≤ n ∧ n < twoTo 64 then ""
      else if n < twoTo 127 then " as i128" else " as u128"
    "integer `" ++ toString n ++ "`" ++ wide
  | .float f => "floating point `" ++ f.text ++ "`"
  | .boolean b => "boolean `" ++ (if b then "true" else "false") ++ "`"
  | .array .. => "sequence"
  | .table .. => "map"
  | .datetime => "map"

def Misfit.message : Misfit → String
  | .wrongType found expected => "invalid type: " ++ found.described ++ ", expected " ++ expected
  | .wrongNumber found expected =>
    "invalid value: " ++ (Value.integer found).described ++ ", expected " ++ expected
  | .tooShort length expected => "invalid length " ++ toString length ++ ", expected " ++ expected
  | .missingField name => "missing field `" ++ name ++ "`"
  | .unknownWord found expected =>
    "unknown variant `" ++ found ++ "`, expected " ++
      " or ".intercalate (expected.map fun w => "`" ++ w ++ "`")
  | .wordWithValue (.array ..) => "expected empty array"
  | .wordWithValue (.table ..) => "expected empty table"
  | .wordWithValue found => "expected table, found " ++ found.kindName
  | .wordAsTable several =>
    "wanted exactly 1 element, " ++ (if several then "more than 1 element" else "found 0 elements")
  | .noWord => "wanted string or table"

namespace Shape

def string : Value → Except Misfit String
  | .string text => .ok text
  | found => .error (.wrongType found "a string")

def path : Value → Except Misfit String
  | .string text => .ok text
  | found => .error (.wrongType found "path string")

/-- A natural number of at most thirty-two bits. -/
def natural32 : Value → Except Misfit Nat
  | .integer n =>
    if 0 ≤ n ∧ n < twoTo 32 then .ok n.toNat
    else if -(twoTo 63 : Int) ≤ n ∧ n < twoTo 64 then .error (.wrongNumber n "u32")
    else .error (.wrongType (.integer n) "u32")
  | found => .error (.wrongType found "u32")

/-- Values fitted one after the other. -/
def each (fit : Value → Except Misfit α) : List Value → Except Misfit (List α)
  | [] => .ok []
  | v :: rest =>
    match fit v with
    | .error misfit => .error misfit
    | .ok a => (each fit rest).map (a :: ·)

def listOf (fit : Value → Except Misfit α) : Value → Except Misfit (List α)
  | .array _ items => each fit items
  | found => .error (.wrongType found "a sequence")

/-- One of some words: written as a text, or as a table with the word for its only key and an empty
table or an empty array below it. -/
def word (words : List (String × α)) (value : Value) : Except Misfit α :=
  let known (name : String) : Except Misfit α :=
    match words.lookup name with
    | some a => .ok a
    | none => .error (.unknownWord name (words.map Prod.fst))
  match value with
  | .string text => known text
  | .table _ [] => .error (.wordAsTable false)
  | .table _ [(name, below)] =>
    match known name, below with
    | .error misfit, _ => .error misfit
    | .ok a, .table _ [] => .ok a
    | .ok a, .array _ [] => .ok a
    | .ok _, _ => .error (.wordWithValue below)
  | .table _ _ => .error (.wordAsTable true)
  | _ => .error .noWord

/-- The field of a table, fitted where it is there. -/
def field? (entries : Entries) (name : String) (fit : Value → Except Misfit α) :
    Except Misfit (Option α) :=
  match entries.lookup name with
  | none => .ok none
  | some v => (fit v).map some

/-- A field that has to be there. -/
def required (name : String) : Option α → Except Misfit α
  | some a => .ok a
  | none => .error (.missingField name)

/-- The element of an array, fitted where the array is long enough. -/
def element? (items : List Value) (index : Nat) (fit : Value → Except Misfit α) :
    Except Misfit (Option α) :=
  match items[index]? with
  | none => .ok none
  | some v => (fit v).map some

/-- An element that has to be there. -/
def element (items : List Value) (index : Nat) (expected : String)
    (fit : Value → Except Misfit α) : Except Misfit α :=
  match items[index]? with
  | none => .error (.tooShort index expected)
  | some v => fit v

/-- A record, written as a table or as an array. -/
def record (expected : String) (ofTable : Entries → Except Misfit α)
    (ofArray : List Value → Except Misfit α) : Value → Except Misfit α
  | .table _ entries => ofTable entries
  | .datetime => ofTable []
  | .array _ items => ofArray items
  | found => .error (.wrongType found expected)

end Shape

end ToolBootstrap.Toml
