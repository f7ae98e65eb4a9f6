import ToolBootstrap.Text.Lines

/- The narration of a run: labelled records, and plain lines of output.

   Warnings and errors go to the standard error stream, everything else to the standard output. A
   label is right aligned in its column, and each further line of a message starts under the
   column of the first. -/

namespace ToolBootstrap.Console

/-- What a record reports. -/
inductive Kind where
  | pending
  | success
  | info
  | warn
  | error
  deriving DecidableEq, Repr

namespace Kind

def onStderr : Kind → Bool
  | .warn | .error => true
  | _ => false

/-- The terminal's number for the colour of a kind: cyan, green, blue, yellow, red. -/
def colour : Kind → Nat
  | .pending => 36
  | .success => 32
  | .info => 34
  | .warn => 33
  | .error => 31

end Kind

/-- A labelled message. -/
structure Record where
  kind : Kind
  label : String
  message : String
  deriving DecidableEq, Repr

namespace Record

def status (label message : String) : Record := ⟨.pending, label, message⟩

def success (label message : String) : Record := ⟨.success, label, message⟩

def info (message : String) : Record := ⟨.info, "Info", message⟩

def warn (message : String) : Record := ⟨.warn, "Warning", message⟩

def error (message : String) : Record := ⟨.error, "Error", message⟩

def labelWidth : Nat := 12

/-- Scalar values with spaces in front, up to a width. -/
def padLeft (width : Nat) (cs : List Char) : List Char :=
  List.replicate (width - cs.length) ' ' ++ cs

/-- What switches the bold colour of a kind on and off, if records are coloured. -/
def marks (kind : Kind) (colored : Bool) : List Char × List Char :=
  if colored then
    (("\x1b[1m\x1b[" ++ toString kind.colour ++ "m").toList, "\x1b[0m".toList)
  else ([], [])

/-- One written line: a filled label column, a space, and a segment of the message. -/
def lineOf (column segment : List Char) : List Char := column ++ ' ' :: segment ++ ['\n']

/-- The written lines of a record. -/
def renderChars (record : Record) (colored : Bool) : List Char :=
  let (on, off) := marks record.kind colored
  match segments record.message.toList with
  | [] => []
  | first :: others =>
    lineOf (on ++ padLeft labelWidth record.label.toList ++ off) first ++
      others.flatMap (lineOf (padLeft labelWidth []))

def render (record : Record) (colored : Bool) : String :=
  String.ofList (record.renderChars colored)

end Record

/-- One piece of output: a record, or a plain line on the standard output. -/
inductive Entry where
  | record (record : Record)
  | line (text : String)
  deriving DecidableEq, Repr

namespace Entry

def onStderr : Entry → Bool
  | .record r => r.kind.onStderr
  | .line _ => false

def render (entry : Entry) (colored : Bool) : String :=
  match entry with
  | .record r => r.render colored
  | .line text => text ++ "\n"

end Entry

/-- What one of the two streams receives, uncoloured. -/
def stream (entries : List Entry) (stderr : Bool) : String :=
  String.join ((entries.filter fun e => e.onStderr == stderr).map fun e => e.render false)

/-- Records are coloured on a terminal, unless colours are switched off. -/
def usesColor (noColor terminal : Bool) : Bool := !noColor && terminal

end ToolBootstrap.Console
