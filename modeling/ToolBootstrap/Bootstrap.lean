import ToolBootstrap.CiFile
import ToolBootstrap.Elapsed
import ToolBootstrap.Manager.Install
import ToolBootstrap.Receipt
import ToolBootstrap.Session
import ToolBootstrap.StartupFile
import ToolBootstrap.Text.Blank
import ToolBootstrap.Tool
import ToolBootstrap.VersionToken

/- The bootstrap run.

   The manager is installed, its directories go onto the search path, the search path is persisted,
   and then the tools are installed one after the other. For each tool the manager adds a plugin,
   installs the pinned version and selects it, and the tool is asked for its version. Only a search
   path that cannot be written to the CI file ends the run; every other failure is reported, and
   the run goes on. -/

namespace ToolBootstrap

/-- The steps by which one tool is installed. -/
inductive InstallStep where
  | pluginAdd
  | install
  | setGlobal
  | verify
  deriving DecidableEq, Repr

def InstallStep.name : InstallStep → String
  | .pluginAdd => "plugin-add"
  | .install => "install"
  | .setGlobal => "global"
  | .verify => "verify"

/-- How the installation of a tool ended: with the reported version, or with a failed step. -/
inductive Outcome where
  | installed (report : String)
  | failed (step : InstallStep) (failure : Failure)
  deriving DecidableEq, Repr

structure ToolResult where
  tool : Tool
  outcome : Outcome
  deriving DecidableEq, Repr

def ToolResult.isInstalled (result : ToolResult) : Bool :=
  match result.outcome with
  | .installed _ => true
  | .failed .. => false

/-- The summary of a completed run. -/
structure Report where
  managerDir : Path
  managerVersion : String
  /-- Absent when the manager could not be cloned. -/
  managerState : Option Manager.State
  searchPath : SearchPath
  /-- Absent on CI, and when the startup file could not be updated. -/
  startup : Option StartupFile.Update
  tools : List ToolResult
  deriving DecidableEq, Repr

def Report.installedCount (report : Report) : Nat :=
  (report.tools.filter ToolResult.isInstalled).length

/-- What a run is set up with. -/
structure Bootstrap where
  manager : Manager
  searchPath : SearchPath
  shell : Shell
  startupFile : Path
  ciFile : Option Path
  deriving DecidableEq, Repr

namespace Bootstrap

open Session

variable {σ : Type}

/-! ## The manager -/

/-- Installs the manager. `elapsed` is the time that takes, as the record of it tells. -/
def ensureManager (b : Bootstrap) (git : Git) (elapsed : Elapsed) :
    Act σ (Option Manager.State) := do
  let dir := b.manager.dir.display
  match ← onDisk (b.manager.ensureInstalled git) with
  | .ok .alreadyPresent =>
    say (.info ("asdf already exists at " ++ dir))
    return some .alreadyPresent
  | .ok .cloned =>
    say (.success "Cloned"
      ("asdf " ++ b.manager.version ++ " into " ++ dir ++ " in " ++ elapsed.text))
    return some .cloned
  | .error failure =>
    say (.warn ("could not clone asdf " ++ b.manager.version ++ ": " ++ failure.message))
    return none

/-! ## The search path -/

def extendedPath (b : Bootstrap) : SearchPath := b.searchPath.extended b.manager.pathDirs

def announcePath (b : Bootstrap) : Act σ Unit :=
  say (.status "Path" ("added " ++ " and ".intercalate (b.manager.pathDirs.map Path.display)))

/-- Writes the search path to the CI file. -/
def persistForCi (b : Bootstrap) : Act σ (Except Failure Unit) := do
  match ← onDisk (CiFile.persist b.ciFile b.extendedPath) with
  | .error failure => return .error failure
  | .ok () =>
    say (.success "Persisted" "PATH to the CI environment file")
    return .ok ()

/-- Adds the lines of the manager to the startup file. -/
def persistForShell (b : Bootstrap) : Act σ (Option StartupFile.Update) := do
  let marker := Manager.startupMarker b.shell
  let added := b.manager.startupLines b.shell
  let file := b.startupFile.display
  match ← onDisk (StartupFile.ensureLines b.startupFile marker added) with
  | .ok .appended =>
    say (.success "Updated" (file ++ " sources asdf"))
    return some .appended
  | .ok .alreadyPresent =>
    say (.info (file ++ " already sources asdf"))
    return some .alreadyPresent
  | .error failure =>
    say (.warn ("could not update " ++ file ++ ": " ++ failure.message))
    return none

/-- Persists the search path; this fails only on CI. -/
def persistPath (b : Bootstrap) (ci : Bool) :
    Act σ (Except Failure (Option StartupFile.Update)) := do
  if ci then
    match ← b.persistForCi with
    | .ok () => return .ok none
    | .error failure => return .error failure
  else
    return .ok (← b.persistForShell)

/-! ## The tools -/

/-- The commands that install a tool, each with its step. -/
def plan (path : SearchPath) (tool : Tool) : List (InstallStep × Invocation) :=
  [(.pluginAdd, ⟨managerProgram, ["plugin", "add", tool.name], path⟩),
   (.install, ⟨managerProgram, ["install", tool.name, tool.version], path⟩),
   (.setGlobal, ⟨managerProgram, ["global", tool.name, tool.version], path⟩),
   (.verify, ⟨tool.versionCommand, ["--version"], path⟩)]

/-- Whether a step may fail in this way without ending the installation: a plugin that is there
already need not be added. -/
def tolerates (step : InstallStep) (failure : Failure) : Bool :=
  match step, failure with
  | .pluginAdd, .alreadyExists _ => true
  | .pluginAdd, .commandFailed _ _ message => contains message "already added"
  | _, _ => false

/-- Runs commands until one fails, and returns what the last one wrote. -/
def follow (runner : Runner σ) :
    List (InstallStep × Invocation) → Output → Act σ (Except (InstallStep × Failure) Output)
  | [], last => return .ok last
  | (step, call) :: rest, _ => do
    match ← invoke runner call with
    | .ok output => follow runner rest output
    | .error failure =>
      if tolerates step failure then follow runner rest Output.nothing
      else return .error (step, failure)

/-- The reported version: what was written to the standard output, or else to the error stream. -/
def versionReport (output : Output) : String :=
  let stdout := trim output.stdout
  if stdout.isEmpty then trim output.stderr else stdout

/-- Whether a report mentions a version as one of its version numbers. -/
def mentionsVersion (report version : String) : Bool := (VersionToken.all report).contains version

def installTool (runner : Runner σ) (path : SearchPath) (tool : Tool) : Act σ ToolResult := do
  say (.status "Installing" (tool.name ++ " -v " ++ tool.version ++ "..."))
  match ← follow runner (plan path tool) Output.nothing with
  | .ok output =>
    let report := versionReport output
    if !mentionsVersion report tool.version then
      say (.warn (tool.versionCommand ++ " reported " ++ Quoted.text report ++ ", expected " ++
        tool.version))
    say (.success "Installed" (tool.name ++ " -v " ++ report))
    return ⟨tool, .installed report⟩
  | .error (step, failure) =>
    say (.warn ("could not install " ++ tool.name ++ ": " ++ failure.message))
    return ⟨tool, .failed step failure⟩

def installTools (runner : Runner σ) (path : SearchPath) : List Tool → Act σ (List ToolResult)
  | [] => return []
  | tool :: rest => do
    let result ← installTool runner path tool
    let results ← installTools runner path rest
    return result :: results

/-! ## The run -/

def run (b : Bootstrap) (git : Git) (runner : Runner σ) (elapsed : Elapsed) (tools : List Tool)
    (ci : Bool) : Act σ (Except Failure Report) := do
  let state ← b.ensureManager git elapsed
  b.announcePath
  match ← b.persistPath ci with
  | .error failure => return .error failure
  | .ok startup =>
    let results ← installTools runner b.extendedPath tools
    return .ok
      { managerDir := b.manager.dir
        managerVersion := b.manager.version
        managerState := state
        searchPath := b.extendedPath
        startup := startup
        tools := results }

end Bootstrap

/-! ## The receipt -/

/-- What a receipt keeps of a tool's result. -/
def ToolResult.receipt (result : ToolResult) : ToolReceipt :=
  match result.outcome with
  | .installed report => ⟨result.tool.name, result.tool.version, .installed, report⟩
  | .failed step failure =>
    ⟨result.tool.name, result.tool.version, .failed, step.name ++ ": " ++ failure.message⟩

def Report.receipt (report : Report) (finishedAt : String) : Receipt :=
  { format := 1
    finishedAt := finishedAt
    managerDir := report.managerDir
    managerVersion := report.managerVersion
    tools := report.tools.map ToolResult.receipt }

end ToolBootstrap
