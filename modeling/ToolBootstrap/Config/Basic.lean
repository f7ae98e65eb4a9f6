import ToolBootstrap.Expansion
import ToolBootstrap.Manager.Basic
import ToolBootstrap.Tool

/- The configuration: which manager and which tools, at which versions. -/

namespace ToolBootstrap

/-- The manager's repository, its pinned release, and the directory it is kept in, as written. -/
structure ManagerPin where
  repository : String
  version : String
  dir : String
  deriving DecidableEq, Repr

def ManagerPin.standard : ManagerPin :=
  { repository := "https://github.com/asdf-vm/asdf.git"
    version := "v0.14.1"
    dir := "~/.asdf" }

/-- The pinned manager and the pinned tools, in the order of their installation. -/
structure Config where
  manager : ManagerPin
  tools : List Tool
  deriving DecidableEq, Repr

/-- The tools that are installed where none are configured. -/
def Config.standardTools : List Tool :=
  [⟨"scarb", "2.11.0", none⟩, ⟨"starknet-foundry", "0.38.2", some "snforge"⟩]

def Config.standard : Config := ⟨ManagerPin.standard, Config.standardTools⟩

/-- A message, and the causes below it. -/
structure Trouble where
  message : String
  causes : List String
  deriving DecidableEq, Repr

/-- The message and its causes, outermost first. -/
def Trouble.chain (t : Trouble) : List String := t.message :: t.causes

namespace ManagerPin

def expansionTrouble (pin : ManagerPin) (fault : Expansion.Fault) : Trouble :=
  ⟨"Failed to expand manager directory " ++ Quoted.text pin.dir,
    [fault.message, fault.cause.message]⟩

def resolveDir (pin : ManagerPin) (env : Environment) (home : Path) : Except Trouble Path :=
  match Expansion.directory env home pin.dir with
  | .ok dir => .ok dir
  | .error fault => .error (pin.expansionTrouble fault)

def resolve (pin : ManagerPin) (env : Environment) (home : Path) : Except Trouble Manager :=
  (pin.resolveDir env home).map fun dir => ⟨pin.repository, pin.version, dir⟩

end ManagerPin

end ToolBootstrap
