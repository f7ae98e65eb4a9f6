import ToolBootstrap.Path
import ToolBootstrap.Text.Blank
import ToolBootstrap.Text.LetterCase

/- The interactive shells that a startup file can be written for. -/

namespace ToolBootstrap

/-- A shell with a startup file. -/
inductive Shell where
  | zsh
  | bash
  | fish
  deriving DecidableEq, Repr

namespace Shell

def all : List Shell := [.zsh, .bash, .fish]

def name : Shell → String
  | .zsh => "zsh"
  | .bash => "bash"
  | .fish => "fish"

/-- The last name of a path-like text: what remains for texts such as `/` or `..` is the text
itself. -/
def baseName (text : String) : String :=
  match (Path.ofText (trim text)).fileName? with
  | some octets => (Utf8.decode? octets).getD text
  | none => text

/-- The shell that a name or a path such as `/usr/bin/zsh` stands for, in any letter case. -/
def ofName? (text : String) : Option Shell :=
  all.find? fun shell => lowerCase (baseName text) == shell.name

/-- The startup file below a home directory. -/
def startupPath (shell : Shell) (home : Path) : Path :=
  match shell with
  | .zsh => home.child ".zshrc"
  | .bash => home.child ".bashrc"
  | .fish => home.child ".config/fish/config.fish"

/-- The line that puts directories on the search path of a running shell. -/
def exportLine (shell : Shell) (dirs : List Path) : String :=
  let joined (separator : String) : String := separator.intercalate (dirs.map Path.display)
  match shell with
  | .zsh | .bash => "export PATH=\"$PATH:" ++ joined ":" ++ "\""
  | .fish => "set -gx PATH $PATH " ++ joined " "

end Shell

end ToolBootstrap
