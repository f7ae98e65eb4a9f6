import ToolBootstrap.Path
import ToolBootstrap.SearchPath
import ToolBootstrap.Shell

/- The variables that a run is started with, and the places derived from them. -/

namespace ToolBootstrap

/-- Variables and their values, in the order in which they were set, and the home directory of the
account that the run belongs to. -/
structure Environment where
  bindings : List (String × Bytes)
  accountHome : Option Path
  deriving DecidableEq, Repr

/-- Why a variable has no text. -/
inductive Unreadable where
  | absent
  | notUtf8 (value : Bytes)
  deriving DecidableEq, Repr

def Unreadable.message : Unreadable → String
  | .absent => "environment variable not found"
  | .notUtf8 value => "environment variable was not valid unicode: " ++ Quoted.octets value

namespace Environment

def empty : Environment := ⟨[], none⟩

def get? (env : Environment) (name : String) : Option Bytes := env.bindings.lookup name

def unset (env : Environment) (name : String) : Environment :=
  { env with bindings := env.bindings.filter fun v => v.1 != name }

def set (env : Environment) (name : String) (value : Bytes) : Environment :=
  { env with bindings := (env.unset name).bindings ++ [(name, value)] }

/-- Whether a text can name a variable at all. -/
def isName (name : String) : Bool :=
  !name.isEmpty && !name.toList.contains '=' && !name.toList.contains '\x00'

def text? (env : Environment) (name : String) : Except Unreadable String :=
  if !isName name then .error .absent
  else
    match env.get? name with
    | none => .error .absent
    | some value =>
      match Utf8.decode? value with
      | some text => .ok text
      | none => .error (.notUtf8 value)

/-- The shell of the session; bash where none is named that is known. -/
def shell (env : Environment) : Shell :=
  match env.text? "SHELL" with
  | .ok name => (Shell.ofName? name).getD .bash
  | .error _ => .bash

def searchPath (env : Environment) : SearchPath :=
  match env.get? "PATH" with
  | some written => SearchPath.ofOctets written
  | none => SearchPath.empty

/-- The home directory: the one that is set, if it is not empty, or else that of the account. -/
def home? (env : Environment) : Option Path :=
  match env.get? "HOME" with
  | some [] => env.accountHome
  | some octets => some ⟨octets⟩
  | none => env.accountHome

/-- The directory for state that outlives a run: below the state home, where one is set to more
than white space, or below the home directory. -/
def stateDir? (env : Environment) : Option Path :=
  let base? :=
    match env.text? "XDG_STATE_HOME" with
    | .ok text => if isAllBlank text then none else some (Path.ofText text)
    | .error _ => none
  match base? with
  | some base => some (base.child "asdf-bootstrap")
  | none => env.home?.map fun home => (home.child ".local/state").child "asdf-bootstrap"

end Environment

end ToolBootstrap
