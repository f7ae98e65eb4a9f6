import ToolBootstrap.Config.Load
import ToolBootstrap.Toml.Writer

/- The receipt of a run: which tools were installed, and why others were not.

   A receipt is kept as a document in the state directory. What is written can be read back, and
   nothing is written before the whole text is known. -/

namespace ToolBootstrap

inductive ToolStatus where
  | installed
  | failed
  deriving DecidableEq, Repr

namespace ToolStatus

def word : ToolStatus → String
  | .installed => "installed"
  | .failed => "failed"

def words : List (String × ToolStatus) := [("installed", .installed), ("failed", .failed)]

end ToolStatus

/-- What became of one tool: the reported version, or the failure. -/
structure ToolReceipt where
  name : String
  version : String
  status : ToolStatus
  detail : String
  deriving DecidableEq, Repr

/-- What became of a run. -/
structure Receipt where
  format : Nat
  finishedAt : String
  managerDir : Path
  managerVersion : String
  tools : List ToolReceipt
  deriving DecidableEq, Repr

namespace Receipt

open Toml

/-- The place of the receipt in the state directory. -/
def path (stateDir : Path) : Path := stateDir.child "receipt.toml"

def installed (receipt : Receipt) : List ToolReceipt :=
  receipt.tools.filter fun tool => tool.status = .installed

/-! ## Reading -/

/-- A tool's receipt from the keys of a table. -/
def toolOfTable (entries : Entries) : Except Misfit ToolReceipt := do
  let detail ← Shape.field? entries "detail" Shape.string
  let name ← Shape.field? entries "name" Shape.string
  let status ← Shape.field? entries "status" (Shape.word ToolStatus.words)
  let version ← Shape.field? entries "version" Shape.string
  let name ← Shape.required "name" name
  let version ← Shape.required "version" version
  let status ← Shape.required "status" status
  let detail ← Shape.required "detail" detail
  return ⟨name, version, status, detail⟩

/-- A tool's receipt from an array of name, version, status and detail. -/
def toolOfArray (items : List Value) : Except Misfit ToolReceipt := do
  let expected := "struct ToolReceipt with 4 elements"
  let name ← Shape.element items 0 expected Shape.string
  let version ← Shape.element items 1 expected Shape.string
  let status ← Shape.element items 2 expected (Shape.word ToolStatus.words)
  let detail ← Shape.element items 3 expected Shape.string
  return ⟨name, version, status, detail⟩

def toolOfValue : Value → Except Misfit ToolReceipt :=
  Shape.record "struct ToolReceipt" toolOfTable toolOfArray

/-- A receipt from the entries of a document. -/
def ofEntries (entries : Entries) : Except Misfit Receipt := do
  let finishedAt ← Shape.field? entries "finished_at" Shape.string
  let managerDir ← Shape.field? entries "manager_dir" Shape.path
  let managerVersion ← Shape.field? entries "manager_version" Shape.string
  let tools ← Shape.field? entries "tools" (Shape.listOf toolOfValue)
  let format ← Shape.field? entries "version" Shape.natural32
  let format ← Shape.required "version" format
  let finishedAt ← Shape.required "finished_at" finishedAt
  let managerDir ← Shape.required "manager_dir" managerDir
  let managerVersion ← Shape.required "manager_version" managerVersion
  return ⟨format, finishedAt, Path.ofText managerDir, managerVersion, tools.getD []⟩

def ofText (text : String) : Except DocumentFault Receipt :=
  match Toml.read text with
  | none => .error .malformed
  | some entries =>
    match ofEntries entries with
    | .ok receipt => .ok receipt
    | .error misfit => .error (.misfit misfit)

def load (disk : Disk) (path : Path) : Except DocumentFault Receipt :=
  match disk.readText path with
  | .error fault => .error (.unreadable fault)
  | .ok text => ofText text

/-- What is reported for a receipt that cannot be used. -/
def loadMessage (path : Path) : DocumentFault → String
  | .unreadable _ => "Failed to read receipt from " ++ path.quoted
  | _ => "Failed to parse receipt from " ++ path.quoted

/-! ## Writing -/

def textLine (key text : String) : List Char :=
  key.toList ++ [' ', '=', ' '] ++ writeChars text.toList ++ ['\n']

def toolLines (tool : ToolReceipt) : List Char :=
  "\n[[tools]]\n".toList ++ textLine "name" tool.name ++ textLine "version" tool.version ++
    textLine "status" tool.status.word ++ textLine "detail" tool.detail

/-- The document of a receipt, if its directory is text. -/
def render? (receipt : Receipt) : Option String :=
  match receipt.managerDir.text? with
  | none => none
  | some dir =>
    let head :=
      "version = ".toList ++ Nat.toDigits 10 receipt.format ++ ['\n'] ++
        textLine "finished_at" receipt.finishedAt ++ textLine "manager_dir" dir ++
        textLine "manager_version" receipt.managerVersion
    let tools :=
      if receipt.tools.isEmpty then "tools = []\n".toList else receipt.tools.flatMap toolLines
    some (String.ofList (head ++ tools))

/-- Why a receipt could not be kept. -/
inductive SaveFault where
  | noDirectory (dir : Path) (fault : IoFault)
  | unwritableText
  | noFile (path : Path) (fault : IoFault)
  deriving DecidableEq, Repr

def SaveFault.trouble : SaveFault → Trouble
  | .noDirectory dir fault =>
    ⟨"Failed to create receipt directory " ++ dir.quoted, [fault.message]⟩
  | .unwritableText =>
    ⟨"Failed to serialize receipt", ["path contains invalid UTF-8 characters"]⟩
  | .noFile path fault => ⟨"Failed to write receipt to " ++ path.quoted, [fault.message]⟩

/-- Keeps a receipt in a file; the directories above the file are made. -/
def save (receipt : Receipt) (disk : Disk) (path : Path) : Except SaveFault Unit × Disk :=
  let prepared : Except SaveFault Unit × Disk :=
    match path.parent? with
    | none => (.ok (), disk)
    | some parent =>
      match disk.makeDirectories parent with
      | (.ok (), made) => (.ok (), made)
      | (.error fault, made) => (.error (.noDirectory parent fault), made)
  match prepared with
  | (.error fault, made) => (.error fault, made)
  | (.ok (), made) =>
    match receipt.render? with
    | none => (.error .unwritableText, made)
    | some text =>
      match made.write path (Utf8.encode text) with
      | (.error fault, after) => (.error (.noFile path fault), after)
      | (.ok (), written) => (.ok (), written)

end Receipt

end ToolBootstrap
