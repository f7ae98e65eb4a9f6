import ToolBootstrap.CommandLine.Basic

/- What is printed instead of performing a request. -/

namespace ToolBootstrap.CommandLine

def versionText : String := "asdf-bootstrap 0.1.0\n"

def usageText : String :=
  "Usage: asdf-bootstrap [-v] [-c FILE] COMMAND\n\n" ++
  "Commands:\n" ++
  "  install [--ci] [--ci-env-file FILE] [-s SHELL] [--startup-file FILE]\n" ++
  "  env [-s SHELL]\n" ++
  "  status\n" ++
  "  check\n"

def complaint : Refusal → String
  | .unknownArgument => "unexpected argument"
  | .invalidSubcommand => "unrecognized subcommand"
  | .invalidValue => "a value is missing or empty"
  | .invalidUtf8 => "a value is not valid UTF-8"
  | .argumentConflict => "an argument cannot be used multiple times"
  | .tooManyValues => "a flag takes no value"
  | .missingSubcommand => "a subcommand is required"
  | .nothingGiven | .help | .version => ""

def Refusal.text : Refusal → String
  | .version => versionText
  | .help | .nothingGiven => usageText
  | refusal => "error: " ++ complaint refusal ++ "\n\n" ++ usageText

end ToolBootstrap.CommandLine
