import ToolBootstrap.Bootstrap
import ToolBootstrap.CiFile
import ToolBootstrap.Command.Basic
import ToolBootstrap.Command.Footprint
import ToolBootstrap.Command.Inspection
import ToolBootstrap.Command.Installation
import ToolBootstrap.Command.Perform
import ToolBootstrap.CommandLine.Basic
import ToolBootstrap.CommandLine.Options
import ToolBootstrap.CommandLine.Reader
import ToolBootstrap.CommandLine.Usage
import ToolBootstrap.Config.Basic
import ToolBootstrap.Config.Issue
import ToolBootstrap.Config.Load
import ToolBootstrap.Console
import ToolBootstrap.Decimal.Binary
import ToolBootstrap.Decimal.Power
import ToolBootstrap.Decimal.Shortest
import ToolBootstrap.Disk
import ToolBootstrap.Elapsed
import ToolBootstrap.Environment
import ToolBootstrap.Expansion
import ToolBootstrap.Failure
import ToolBootstrap.Git
import ToolBootstrap.Host
import ToolBootstrap.Invocation
import ToolBootstrap.LocalGit.Library
import ToolBootstrap.LocalGit.Repository
import ToolBootstrap.LocalGit.Revision
import ToolBootstrap.Machine
import ToolBootstrap.Main
import ToolBootstrap.Manager.Basic
import ToolBootstrap.Manager.Install
import ToolBootstrap.Path
import ToolBootstrap.ProgramLookup
import ToolBootstrap.Proofs.Attempts
import ToolBootstrap.Proofs.Checkout
import ToolBootstrap.Proofs.CiAppend
import ToolBootstrap.Proofs.CommandLines
import ToolBootstrap.Proofs.Conversation
import ToolBootstrap.Proofs.DocumentLines
import ToolBootstrap.Proofs.DocumentString
import ToolBootstrap.Proofs.ElapsedText
import ToolBootstrap.Proofs.ExportLine
import ToolBootstrap.Proofs.Files
import ToolBootstrap.Proofs.HomeDirectory
import ToolBootstrap.Proofs.HostRunner
import ToolBootstrap.Proofs.InstallCommand
import ToolBootstrap.Proofs.Installation
import ToolBootstrap.Proofs.Issues
import ToolBootstrap.Proofs.LineFile
import ToolBootstrap.Proofs.LocalLibrary
import ToolBootstrap.Proofs.MarkerSearch
import ToolBootstrap.Proofs.Mentions
import ToolBootstrap.Proofs.NamedDirectory
import ToolBootstrap.Proofs.Narration
import ToolBootstrap.Proofs.Opening
import ToolBootstrap.Proofs.Parents
import ToolBootstrap.Proofs.PathSpelling
import ToolBootstrap.Proofs.PathText
import ToolBootstrap.Proofs.Persistence
import ToolBootstrap.Proofs.Places
import ToolBootstrap.Proofs.ReceiptCodec
import ToolBootstrap.Proofs.RecordLayout
import ToolBootstrap.Proofs.Replay
import ToolBootstrap.Proofs.Rerun
import ToolBootstrap.Proofs.Rounding
import ToolBootstrap.Proofs.RunEvents
import ToolBootstrap.Proofs.SearchPathCodec
import ToolBootstrap.Proofs.SearchPathExtension
import ToolBootstrap.Proofs.ShellNames
import ToolBootstrap.Proofs.Stages
import ToolBootstrap.Proofs.StatusCommand
import ToolBootstrap.Proofs.Text
import ToolBootstrap.Proofs.Utf8
import ToolBootstrap.Proofs.Validation
import ToolBootstrap.Proofs.VersionText
import ToolBootstrap.Proofs.VersionTokens
import ToolBootstrap.Proofs.Versions
import ToolBootstrap.Proofs.Walk
import ToolBootstrap.Receipt
import ToolBootstrap.Repository
import ToolBootstrap.Script.Run
import ToolBootstrap.Script.Syntax
import ToolBootstrap.Script.Words
import ToolBootstrap.SearchPath
import ToolBootstrap.SemVer
import ToolBootstrap.Session
import ToolBootstrap.Shell
import ToolBootstrap.StartupFile
import ToolBootstrap.Text.Alphanumeric
import ToolBootstrap.Text.Blank
import ToolBootstrap.Text.LetterCase
import ToolBootstrap.Text.Lines
import ToolBootstrap.Text.Printable
import ToolBootstrap.Text.Quoted
import ToolBootstrap.Text.Utf8
import ToolBootstrap.Timestamp
import ToolBootstrap.Toml.Number
import ToolBootstrap.Toml.Reader
import ToolBootstrap.Toml.Shape
import ToolBootstrap.Toml.Table
import ToolBootstrap.Toml.Text
import ToolBootstrap.Toml.Value
import ToolBootstrap.Toml.Writer
import ToolBootstrap.Tool
import ToolBootstrap.VersionToken
