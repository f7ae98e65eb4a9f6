import ToolBootstrap.CommandLine.Options
import ToolBootstrap.Environment
import ToolBootstrap.Text.LetterCase

/- Reading a command line.

   The arguments in front of the subcommand and those after it are read in the same way. What is
   after the subcommand is read to its end, variables included, before what was in front of it is
   settled; so an error there is told first. An option that is not on the command line may come
   from a variable. -/

namespace ToolBootstrap.CommandLine

/-! ## Single arguments -/

def equals : UInt8 := 0x3D

/-- An option with a long name, and the value attached to it by an equals sign. -/
def takeLong (level : Option Subcommand) (given : Given) (written : Bytes) : Except Refusal Given :=
  let name := written.takeWhile (· ≠ equals)
  let attached := if written.contains equals then some (written.drop (name.length + 1)) else none
  match (Switch.allowed level).find? fun s => Utf8.encode s.long == name with
  | none => .error .unknownArgument
  | some switch =>
    if attached.isSome && !switch.takesValue then .error .tooManyValues
    else given.take switch attached

def short? (level : Option Subcommand) (letter : UInt8) : Option Switch :=
  (Switch.allowed level).find? fun s => s.short?.any fun c => c.toNat == letter.toNat

/-- The value attached to a letter, without an equals sign in front. -/
def attachedValue : Bytes → Option Bytes
  | [] => none
  | b :: rest => if b = equals then some rest else some (b :: rest)

/-- Options by their letters; the first one that takes a value takes the rest for it. -/
def takeShorts (level : Option Subcommand) (given : Given) : Bytes → Except Refusal Given
  | [] => .ok given
  | letter :: rest =>
    match short? level letter with
    | none => .error .unknownArgument
    | some switch =>
      if switch.takesValue then given.take switch (attachedValue rest)
      else
        match given.take switch none with
        | .error refusal => .error refusal
        | .ok more => takeShorts level more rest

/-- What is said of an argument that is neither option nor value. In front of a subcommand it is
taken for one, unless it comes after `--` and would be a good one without it. -/
def stray (level : Option Subcommand) (escaped : Bool) (argument : Bytes) : Refusal :=
  match level with
  | some _ => .unknownArgument
  | none =>
    if escaped && ((subcommand? argument).isSome || argument == helpName) then .unknownArgument
    else .invalidSubcommand

/-- What is answered to a request for help on subcommands, one inside the other: only the first can
be one. -/
def explain : List Bytes → Refusal
  | [] => .help
  | [name] => if (subcommand? name).isSome || name == helpName then .help else .invalidSubcommand
  | _ => .invalidSubcommand

/-! ## One side of the subcommand -/

/-- Reads arguments up to a subcommand or to the end; after `--` no more options are read. -/
def scan (level : Option Subcommand) :
    Bool → Given → List Bytes → Except Refusal (Given × Option (Subcommand × List Bytes))
  | _, given, [] => .ok (given, none)
  | true, _, argument :: _ => .error (stray level true argument)
  | false, given, argument :: rest =>
    let named := if level.isNone && !given.awaitsValue then subcommand? argument else none
    match named with
    | some subcommand => .ok (given, some (subcommand, rest))
    | none =>
      if level.isNone && !given.awaitsValue && argument == helpName then .error (explain rest)
      else
        match argument with
        | 0x2D :: 0x2D :: [] => scan level true given rest
        | 0x2D :: 0x2D :: written =>
          match takeLong level given written with
          | .error refusal => .error refusal
          | .ok more => scan level false more rest
        | 0x2D :: letter :: letters =>
          match takeShorts level given (letter :: letters) with
          | .error refusal => .error refusal
          | .ok more => scan level false more rest
        | _ =>
          if given.awaitsValue then scan level false (given.supply argument) rest
          else .error (stray level false argument)

/-! ## Variables -/

def configVariable : String := "ASDF_BOOTSTRAP_CONFIG"

def ciVariable : String := "CI"

def ciFileVariable : String := "GITHUB_ENV"

/-- The words that mean no, in any letter case; so does nothing at all. -/
def isFalsey (text : String) : Bool :=
  text.isEmpty || ["n", "no", "f", "false", "off", "0"].contains (lowerCase text)

/-- A path from a variable. -/
def pathVariable (env : Environment) (name : String) : Except Refusal (Option Path) :=
  match env.get? name with
  | none => .ok none
  | some value => (Given.pathValue value).map some

/-- Whether a variable says yes. -/
def truthVariable (env : Environment) (name : String) : Except Refusal Bool :=
  match env.get? name with
  | none => .ok false
  | some value => (Given.textValue value).map fun text => !isFalsey text

/-- A path from the command line, or else from a variable, which is looked at only then. -/
def pathOr (given : Option Path) (env : Environment) (name : String) :
    Except Refusal (Option Path) :=
  match given with
  | some path => .ok (some path)
  | none => pathVariable env name

/-! ## The whole command line -/

/-- The task of a subcommand with what has been given after it. -/
def taskOf (env : Environment) (subcommand : Subcommand) (given : Given) : Except Refusal Task :=
  match subcommand with
  | .install => do
    let ci ← if given.ci then .ok true else truthVariable env ciVariable
    let ciFile ← pathOr given.ciFile env ciFileVariable
    return .install ci ciFile given.shell given.startupFile
  | .env => .ok (.env given.shell)
  | .status => .ok .status
  | .check => .ok .check

/-- The task of a subcommand with its arguments, and the options that every task has. -/
def readTask (env : Environment) (subcommand : Subcommand) (arguments : List Bytes) :
    Except Refusal (Task × Given) := do
  let (scanned, _) ← scan (some subcommand) false .nothing arguments
  let given ← scanned.settle
  let task ← taskOf env subcommand given
  let _ ← pathOr given.config env configVariable
  return (task, given)

/-- What is said where no subcommand is given. -/
def withoutTask (given : Given) (config : Option Path) : Refusal :=
  if given.verbose || config.isSome then .missingSubcommand else .nothingGiven

/-- The request that a command line makes. What is given after the subcommand counts more than what
is given in front of it, and that more than a variable. -/
def read (env : Environment) (arguments : List Bytes) : Except Refusal Request := do
  let (scanned, rest) ← scan none false .nothing arguments
  let inner? ← match rest with
    | none => .ok none
    | some (subcommand, arguments) => (readTask env subcommand arguments).map some
  let outer ← scanned.settle
  let config ← pathOr outer.config env configVariable
  match inner? with
  | none => .error (withoutTask outer config)
  | some (task, inner) =>
    return ⟨outer.verbose || inner.verbose, inner.config.orElse fun _ => config, task⟩

end ToolBootstrap.CommandLine
