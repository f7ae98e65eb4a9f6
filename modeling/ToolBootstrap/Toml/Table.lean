import ToolBootstrap.Toml.Value

/- How keys and sections build up tables.

   A key may be set once. Dotted keys name tables on their way, which other dotted keys of the same
   table may fill, and sections may not reopen; a section may reopen only a table that was merely
   named on the way to another section. -/

namespace ToolBootstrap.Toml

/-- A key with its value; `path` holds the parts in front of the last dot. -/
structure KeyValue where
  path : List String
  key : String
  value : Value
  deriving Repr

/-- The header of a section: `[path.key]`, or `[[path.key]]` for one more element of an array. -/
structure Header where
  ofArray : Bool
  path : List String
  key : String
  deriving Repr

/-- Changes the entries of the table at a path, which starts at entries of a table of kind `kind`.
Tables that are missing on the way are added. -/
def updateAt (byDottedKey : Bool) (change : TableKind → Entries → Option Entries) :
    List String → TableKind → Entries → Option Entries
  | [], kind, entries => change kind entries
  | key :: path, _, entries =>
    match entries.lookup key with
    | none =>
      let kind : TableKind := if byDottedKey then .dotted else .implied
      (updateAt byDottedKey change path kind []).map fun new =>
        entries ++ [(key, .table kind new)]
    | some (.table kind inner) =>
      if kind = .inline ∨ (byDottedKey ∧ kind = .header) then none
      else
        (updateAt byDottedKey change path kind inner).map fun new =>
          entries.replace key (.table kind new)
    | some (.array true items) =>
      match items.getLast? with
      | some (.table kind inner) =>
        (updateAt byDottedKey change path kind inner).map fun new =>
          entries.replace key (.array true (items.dropLast ++ [.table kind new]))
      | _ => none
    | some _ => none

/-- The entries of a table of kind `kind` with one more key. A dotted key fills tables that dotted
keys have named, and no other. -/
def insertKey (kind : TableKind) (entries : Entries) (pair : KeyValue) : Option Entries :=
  let add (inner : TableKind) (found : Entries) : Option Entries :=
    if (inner == .dotted) == pair.path.isEmpty then none
    else
      match found.lookup pair.key with
      | some _ => none
      | none => some (found ++ [(pair.key, pair.value)])
  updateAt true add pair.path kind entries

def insertKeys (kind : TableKind) : Entries → List KeyValue → Option Entries
  | entries, [] => some entries
  | entries, pair :: rest =>
    match insertKey kind entries pair with
    | some more => insertKeys kind more rest
    | none => none

/-- The entries of a table in which a section has been opened and filled. -/
def openSection (header : Header) (pairs : List KeyValue) (_ : TableKind) (found : Entries) :
    Option Entries :=
  match found.lookup header.key, header.ofArray with
  | none, false =>
    (insertKeys .header [] pairs).map fun new => found ++ [(header.key, .table .header new)]
  | some (.table .implied inner), false =>
    (insertKeys .header inner pairs).map fun new => found.replace header.key (.table .header new)
  | none, true =>
    (insertKeys .header [] pairs).map fun new =>
      found ++ [(header.key, .array true [.table .header new])]
  | some (.array true items), true =>
    (insertKeys .header [] pairs).map fun new =>
      found.replace header.key (.array true (items ++ [.table .header new]))
  | _, _ => none

/-- The entries of a document with one more section. -/
def insertSection (root : Entries) (header : Header) (pairs : List KeyValue) : Option Entries :=
  updateAt false (openSection header pairs) header.path .header root

def insertSections : Entries → List (Header × List KeyValue) → Option Entries
  | root, [] => some root
  | root, (header, pairs) :: rest =>
    match insertSection root header pairs with
    | some more => insertSections more rest
    | none => none

end ToolBootstrap.Toml
