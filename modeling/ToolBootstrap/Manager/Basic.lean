import ToolBootstrap.Shell

/- The version manager: where its repository is, which release is pinned, and where it lives. -/

namespace ToolBootstrap

def managerProgram : String := "asdf"

/-- A checkout of the version manager at a directory. -/
structure Manager where
  repository : String
  version : String
  dir : Path
  deriving DecidableEq, Repr

namespace Manager

def binDir (m : Manager) : Path := m.dir.child "bin"

/-- The directory of the programs that stand in for the installed tools. -/
def shimsDir (m : Manager) : Path := m.dir.child "shims"

/-- The directories that the search path needs, in order. -/
def pathDirs (m : Manager) : List Path := [m.binDir, m.shimsDir]

/-- A startup file that mentions this text already sets the manager up. -/
def startupMarker : Shell → String
  | .zsh | .bash => "asdf.sh"
  | .fish => "asdf.fish"

/-- The lines that set the manager and its completions up in a startup file. -/
def startupLines (m : Manager) (shell : Shell) : List String :=
  let dir := m.dir.display
  match shell with
  | .bash => [". \"" ++ dir ++ "/asdf.sh\"", ". \"" ++ dir ++ "/completions/asdf.bash\""]
  | .zsh => [". \"" ++ dir ++ "/asdf.sh\"", "fpath=(\"" ++ dir ++ "/completions\" $fpath)"]
  | .fish =>
    ["source \"" ++ dir ++ "/asdf.fish\"", "source \"" ++ dir ++ "/completions/asdf.fish\""]

end Manager

end ToolBootstrap
