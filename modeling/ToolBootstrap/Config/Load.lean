import ToolBootstrap.Config.Basic
import ToolBootstrap.Disk
import ToolBootstrap.Text.Blank
import ToolBootstrap.Toml.Reader
import ToolBootstrap.Toml.Shape

/- Loading a configuration from a document.

   Everything that a document leaves out is taken from the standard configuration, and a document
   of nothing but white space leaves out everything. -/

namespace ToolBootstrap

/-- Why a document could not be used. -/
inductive DocumentFault where
  /-- The file cannot be read. -/
  | unreadable (fault : IoFault)
  /-- The text is no document. -/
  | malformed
  /-- The document does not hold what is expected. -/
  | misfit (misfit : Toml.Misfit)
  deriving Repr

namespace Config

open Toml

/-- A pinned tool from the keys of a table. -/
def toolOfTable (entries : Entries) : Except Misfit Tool := do
  let command ← Shape.field? entries "command" Shape.string
  let name ← Shape.field? entries "name" Shape.string
  let version ← Shape.field? entries "version" Shape.string
  let name ← Shape.required "name" name
  let version ← Shape.required "version" version
  return ⟨name, version, command⟩

/-- A pinned tool from an array of name, version and command. -/
def toolOfArray (items : List Value) : Except Misfit Tool := do
  let expected := "struct ToolSpec with 3 elements"
  let name ← Shape.element items 0 expected Shape.string
  let version ← Shape.element items 1 expected Shape.string
  let command ← Shape.element? items 2 Shape.string
  return ⟨name, version, command⟩

def toolOfValue : Value → Except Misfit Tool :=
    Shape.record "struct ToolSpec" toolOfTable toolOfArray

/-- A pinned manager from optional fields. -/
def managerOf (repository version dir : Option String) : ManagerPin :=
  { repository := repository.getD ManagerPin.standard.repository
    version := version.getD ManagerPin.standard.version
    dir := dir.getD ManagerPin.standard.dir }

def managerOfTable (entries : Entries) : Except Misfit ManagerPin := do
  let dir ← Shape.field? entries "dir" Shape.string
  let repository ← Shape.field? entries "repository" Shape.string
  let version ← Shape.field? entries "version" Shape.string
  return managerOf repository version dir

/-- A pinned manager from an array of repository, version and directory. -/
def managerOfArray (items : List Value) : Except Misfit ManagerPin := do
  let repository ← Shape.element? items 0 Shape.string
  let version ← Shape.element? items 1 Shape.string
  let dir ← Shape.element? items 2 Shape.string
  return managerOf repository version dir

def managerOfValue : Value → Except Misfit ManagerPin :=
  Shape.record "struct ManagerSpec" managerOfTable managerOfArray

/-- A configuration from the entries of a document. -/
def ofEntries (entries : Entries) : Except Misfit Config := do
  let manager ← Shape.field? entries "manager" managerOfValue
  let tools ← Shape.field? entries "tools" (Shape.listOf toolOfValue)
  return ⟨manager.getD ManagerPin.standard, tools.getD standardTools⟩

def ofText (text : String) : Except DocumentFault Config :=
  if isAllBlank text then .ok standard
  else
    match Toml.read text with
    | none => .error .malformed
    | some entries =>
      match ofEntries entries with
      | .ok config => .ok config
      | .error misfit => .error (.misfit misfit)

/-- A configuration from a file; the standard one where no file is given. -/
def load (disk : Disk) : Option Path → Except DocumentFault Config
  | none => .ok standard
  | some path =>
    match disk.readText path with
    | .error fault => .error (.unreadable fault)
    | .ok text => ofText text

/-- What is reported for a configuration file that cannot be used. -/
def loadMessage (path : Path) : DocumentFault → String
  | .unreadable _ => "Failed to read config file " ++ path.quoted
  | _ => "Failed to parse config file " ++ path.quoted

end Config

end ToolBootstrap
