import ToolBootstrap.CommandLine.Basic

/- The options: their names, where they may stand, and what has been given of them. -/

namespace ToolBootstrap.CommandLine

inductive Subcommand where
  | install
  | env
  | status
  | check
  deriving DecidableEq, Repr

def subcommands : List (String × Subcommand) :=
  [("install", .install), ("env", .env), ("status", .status), ("check", .check)]

/-- The name of the subcommand that explains the others. -/
def helpName : Bytes := Utf8.encode "help"

def subcommand? (argument : Bytes) : Option Subcommand :=
  (Utf8.decode? argument).bind fun name => subcommands.lookup name

inductive Switch where
  | verbose
  | config
  | ci
  | ciFile
  | shell
  | startupFile
  | help
  | version
  deriving DecidableEq, Repr

namespace Switch

def long : Switch → String
  | .verbose => "verbose"
  | .config => "config"
  | .ci => "ci"
  | .ciFile => "ci-env-file"
  | .shell => "shell"
  | .startupFile => "startup-file"
  | .help => "help"
  | .version => "version"

def short? : Switch → Option Char
  | .verbose => some 'v'
  | .config => some 'c'
  | .shell => some 's'
  | .help => some 'h'
  | .version => some 'V'
  | _ => none

def takesValue : Switch → Bool
  | .config | .ciFile | .shell | .startupFile => true
  | _ => false

/-- The options that may stand after a subcommand, or in front of it where none is given. -/
def allowed : Option Subcommand → List Switch
  | none => [.verbose, .config, .help, .version]
  | some .install => [.ci, .ciFile, .shell, .startupFile, .verbose, .config, .help]
  | some .env => [.shell, .verbose, .config, .help]
  | some .status | some .check => [.verbose, .config, .help]

end Switch

/-- What has been given on one side of the subcommand. -/
structure Given where
  verbose : Bool
  config : Option Path
  ci : Bool
  ciFile : Option Path
  shell : Option String
  startupFile : Option Path
  /-- The last option that takes a value, with the value once it is there. It is looked at when the
  next option comes or nothing more follows. -/
  pending : Option (Switch × Option Bytes)
  deriving DecidableEq, Repr

namespace Given

def nothing : Given := ⟨false, none, false, none, none, none, none⟩

/-- Whether the next argument is taken for a value. -/
def awaitsValue (given : Given) : Bool :=
  match given.pending with
  | some (_, none) => true
  | _ => false

/-- Puts an argument where a value is awaited. -/
def supply (given : Given) (value : Bytes) : Given :=
  { given with pending := given.pending.map fun p => (p.1, some value) }

/-- A path as a value: it may be anything but empty. -/
def pathValue (value : Bytes) : Except Refusal Path :=
  if value = [] then .error .invalidValue else .ok ⟨value⟩

/-- A text as a value. -/
def textValue (value : Bytes) : Except Refusal String :=
  match Utf8.decode? value with
  | some text => .ok text
  | none => .error .invalidUtf8

/-- The value of an option, given for the first time. -/
def firstValue {α : Type} (old : Option α) (value : Option Bytes)
    (read : Bytes → Except Refusal α) : Except Refusal (Option α) :=
  match value, old with
  | none, _ => .error .invalidValue
  | some _, some _ => .error .argumentConflict
  | some octets, none => (read octets).map some

def set (given : Given) (switch : Switch) (value : Option Bytes) : Except Refusal Given :=
  match switch with
  | .verbose =>
    if given.verbose then .error .argumentConflict else .ok { given with verbose := true }
  | .ci => if given.ci then .error .argumentConflict else .ok { given with ci := true }
  | .config => do return { given with config := ← firstValue given.config value pathValue }
  | .ciFile => do return { given with ciFile := ← firstValue given.ciFile value pathValue }
  | .shell => do return { given with shell := ← firstValue given.shell value textValue }
  | .startupFile => do
    return { given with startupFile := ← firstValue given.startupFile value pathValue }
  | .help => .error .help
  | .version => .error .version

/-- Sets the pending option. -/
def settle (given : Given) : Except Refusal Given :=
  match given.pending with
  | none => .ok given
  | some (switch, value) => { given with pending := none }.set switch value

/-- Takes an option that may have a value attached; otherwise it waits for one if it takes one. -/
def take (given : Given) (switch : Switch) (attached : Option Bytes) : Except Refusal Given := do
  let settled ← given.settle
  if switch.takesValue && attached.isNone then
    return { settled with pending := some (switch, none) }
  else settled.set switch attached

end Given

end ToolBootstrap.CommandLine
