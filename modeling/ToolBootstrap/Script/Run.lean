import ToolBootstrap.Environment
import ToolBootstrap.Host
import ToolBootstrap.Script.Words

/- Running a script.

   A command changes the state and leaves a status; a script that is left early leaves it by a
   `Stop`. A script runs no programs: all that it can do by itself is done here. The evaluation is
   bounded by a number of nested steps, which every loop round and every nested command uses up; a
   script that needs more counts as killed. -/

namespace ToolBootstrap.Script

/-! ## Writing -/

/-- The number that at most three octal digits write, and what follows them. -/
def octal (cs : Chars) : Nat × Chars :=
  let digits := (cs.take 3).takeWhile fun c => '0' ≤ c && c ≤ '7'
  (digits.foldl (fun n c => n * 8 + (c.toNat - 48)) 0, cs.drop digits.length)

/-- The control characters by the letters that stand for them after a backslash. -/
def controls : List (Char × Char) :=
  [('a', '\x07'), ('b', '\x08'), ('f', '\x0c'), ('n', '\n'), ('r', '\r'), ('t', '\t'),
   ('v', '\x0b'), ('\\', '\\')]

/-- What a text after a backslash stands for, and what follows it. -/
def escaped (cs : Chars) : Chars × Chars :=
  match cs with
  | [] => (['\\'], [])
  | c :: rest =>
    if '0' ≤ c ∧ c ≤ '7' then
      let (n, after) := octal (c :: rest)
      ([Char.ofNat (n % 256)], after)
    else
      match controls.lookup c with
      | some d => ([d], rest)
      | none => (['\\', c], rest)

/-- A format applied once within `fuel` characters, and the arguments left over. -/
def format : Nat → Chars → List Chars → Chars × List Chars
  | 0, _, arguments => ([], arguments)
  | _ + 1, [], arguments => ([], arguments)
  | fuel + 1, '\\' :: cs, arguments =>
    let (front, after) := escaped cs
    let (more, rest) := format fuel after arguments
    (front ++ more, rest)
  | fuel + 1, '%' :: '%' :: cs, arguments =>
    let (more, rest) := format fuel cs arguments
    ('%' :: more, rest)
  | fuel + 1, '%' :: conversion :: cs, arguments =>
    let argument := arguments.head?.getD []
    let shown := if conversion = 'd' then decimal ((number? argument).getD 0) else argument
    let (more, rest) := format fuel cs arguments.tail
    (shown ++ more, rest)
  | fuel + 1, c :: cs, arguments =>
    let (more, rest) := format fuel cs arguments
    (c :: more, rest)

/-- A format applied until it has used up the arguments, at most `fuel` times. -/
def formatAll (text : Chars) : Nat → List Chars → Chars
  | 0, _ => []
  | fuel + 1, arguments =>
    let (shown, rest) := format (text.length + 1) text arguments
    if rest.isEmpty || rest.length == arguments.length then shown
    else shown ++ formatAll text fuel rest

def unescaped (text : Chars) : Chars := (format (text.length + 1)
  (text.flatMap fun c => if c = '%' then ['%', '%'] else [c]) []).1

def write (text : Chars) : Action Nat := do
  emit (← get).stdout text
  return 0

def echo (arguments : List Chars) : Action Nat :=
  match arguments with
  | ['-', 'n'] :: words => write (unescaped ([' '].intercalate words))
  | words => write (unescaped ([' '].intercalate words) ++ ['\n'])

def printf : List Chars → Action Nat
  | [] => complain 2 "usage: printf format [arg ...]".toList
  | text :: arguments => write (formatAll text (arguments.length + 1) arguments)

/-! ## Conditions -/

/-- Whether what an operator tells of a path is true. -/
def fileTest (disk : Disk) (operator : String) (path : Path) : Option Bool :=
  let node? := (disk.locate path).toOption.map Prod.snd
  match operator with
  | "-e" | "-r" | "-w" => some node?.isSome
  | "-d" => some (node?.any Node.isDirectory)
  | "-f" => some (node?.any fun node => !node.isDirectory)
  | "-s" => some (node?.any fun
    | .file data _ => !data.isEmpty
    | _ => true)
  | "-x" => some (node?.any fun
    | .file _ executable => executable
    | _ => true)
  | _ => none

def relation (left : Chars) (operator : String) (right : Chars) : Option Bool :=
  let numbers (holds : Int → Int → Bool) : Option Bool := do
    return holds (← number? left) (← number? right)
  match operator with
  | "=" => some (left == right)
  | "!=" => some (left != right)
  | "-eq" => numbers fun a b => a == b
  | "-ne" => numbers fun a b => a != b
  | "-lt" => numbers fun a b => a < b
  | "-le" => numbers fun a b => a ≤ b
  | "-gt" => numbers fun a b => b < a
  | "-ge" => numbers fun a b => b ≤ a
  | _ => none

def holds? (disk : Disk) : List Chars → Option Bool
  | [] => some false
  | [word] => some (!word.isEmpty)
  | ['!'] :: rest => (holds? disk rest).map not
  | [['-', 'n'], word] => some (!word.isEmpty)
  | [['-', 'z'], word] => some word.isEmpty
  | [operator, word] => fileTest disk (String.ofList operator) ⟨toOctets word⟩
  | [left, operator, right] => relation left (String.ofList operator) right
  | _ => none

def test (words : List Chars) : Action Nat := do
  match holds? (← get).disk words with
  | some held => return if held then 0 else 1
  | none => complain 2 "test: unexpected operator".toList

/-! ## Other commands -/

/-- Sets names to the fields of a line, the last one to all that is left of it. -/
def assignFields : List String → Chars → Action Unit
  | [], _ => return ()
  | [name], line =>
    let front := line.dropWhile isBlank
    assign name (front.reverse.dropWhile isBlank).reverse
  | name :: names, line => do
    let front := line.dropWhile isBlank
    let field := front.takeWhile fun c => !isBlank c
    assign name field
    assignFields names (front.drop field.length)

def readVariables (arguments : List Chars) : Action Nat := do
  let s ← get
  let line := s.input.takeWhile (· ≠ '\n')
  set { s with input := s.input.drop (line.length + 1) }
  assignFields ((arguments.filter (· ≠ ['-', 'r'])).map String.ofList) line
  return if line.length < s.input.length then 0 else 1

def State.workingDirectory (s : State) : Chars :=
  ofOctets (slash :: [slash].intercalate s.disk.workingDirectory)

def changeDirectory (arguments : List Chars) : Action Nat := do
  let s ← get
  let target := (arguments.head? <|> s.bindings.lookup "HOME").getD []
  match s.disk.locate ⟨toOctets target⟩ with
  | .ok (location, node) =>
    if node.isDirectory then
      set { s with disk := { s.disk with workingDirectory := location } }
      return 0
    else complain 2 ("cd: can\x27t cd to ".toList ++ target)
  | .error _ => complain 2 ("cd: can\x27t cd to ".toList ++ target)

/-- Sends a signal; the script can reach itself alone. -/
def kill (arguments : List Chars) : Action Nat := do
  if arguments.getLast? = some processNumber ∧ arguments.head? ≠ some ['-', '0'] then throw .killed
  else complain 1 "kill: No such process".toList

def assignWords (arguments : List Chars) : Action Nat := do
  for word in arguments do
    let name := word.takeWhile (· ≠ '=')
    if word.contains '=' then assign (String.ofList name) (word.drop (name.length + 1))
  return 0

def unset (arguments : List Chars) : Action Nat := do
  modify fun s =>
    { s with bindings := s.bindings.filter fun v => !arguments.contains v.1.toList }
  return 0

def shift (arguments : List Chars) : Action Nat := do
  let s ← get
  set { s with arguments := s.arguments.drop (((arguments.head?.bind number?).getD 1).toNat) }
  return 0

def exit (arguments : List Chars) : Action Nat := do
  let status := (arguments.head?.bind number?).getD (← get).status
  setStatus (status.toNat % 256)
  throw .exit

/-- Runs a command by its name; its status. -/
def builtin (name : String) (arguments : List Chars) : Action Nat :=
  match name with
  | ":" | "true" => return 0
  | "false" => return 1
  | "echo" => echo arguments
  | "printf" => printf arguments
  | "test" => test arguments
  | "[" =>
    if arguments.getLast? = some [']'] then test arguments.dropLast
    else complain 2 "[: missing ]".toList
  | "read" => readVariables arguments
  | "cd" => changeDirectory arguments
  | "pwd" => do write ((← get).workingDirectory ++ ['\n'])
  | "kill" => kill arguments
  | "export" => assignWords arguments
  | "unset" => unset arguments
  | "shift" => shift arguments
  | "exit" => exit arguments
  | "break" => throw .leaveLoop
  | "continue" => throw .nextRound
  | _ => complain 127 (name.toList ++ ": not found".toList)

/-! ## Redirections -/

def nullDevice : Chars := "/dev/null".toList

def connect (stream : Nat) (sink : Sink) : Action Unit :=
  modify fun s => if stream = 2 then { s with stderr := sink } else { s with stdout := sink }

/-- Connects a stream; whether that could be done. -/
def redirect (r : Redirection) (target : Chars) : Action Bool := do
  let s ← get
  let path : Path := ⟨toOctets target⟩
  let refuse (text : String) : Action Bool := do
    setStatus (← complain 2 (text.toList ++ target))
    return false
  match r.mark with
  | "<" =>
    match if target = nullDevice then .ok [] else s.disk.read path with
    | .ok data =>
      set { s with input := ofOctets data }
      return true
    | .error _ => refuse "cannot open "
  | ">&" =>
    connect r.stream (if target = ['2'] then s.stderr else s.stdout)
    return true
  | mark =>
    if target = nullDevice then
      connect r.stream .nowhere
      return true
    match s.disk.openFile path (mark == ">") with
    | (.ok _, disk) =>
      set { s with disk := disk }
      connect r.stream (.file path)
      return true
    | (.error _, _) => refuse "cannot create "

/-- Puts the streams back to what they were, whatever comes out of commands. -/
def thenReconnect (before : State) (act : Action Unit) : Action Unit := ExceptT.mk do
  let result ← act.run
  modify fun s =>
    { s with stdout := before.stdout, stderr := before.stderr, input := before.input }
  return result

/-- Connects streams one after the other; whether that could be done. -/
def redirectAll (run : Chars → Action Chars) : List Redirection → Action Bool
  | [] => return true
  | r :: rest => do
    if ← redirect r (← expandText run r.target) then redirectAll run rest else return false

/-! ## Commands -/

def stepLimit : Nat := 200000

/-- Runs commands as a script of their own: what they set is forgotten, and what they exit with is
their status. -/
def isolated (act : Action Unit) : Action Unit := ExceptT.mk do
  let before ← getThe State
  let result ← act.run
  modify fun s =>
    { before with
      disk := { s.disk with workingDirectory := before.disk.workingDirectory }
      status := s.status, input := s.input, written := s.written, complaints := s.complaints }
  return match result with
    | .error .killed => .error .killed
    | _ => .ok ()

/-- Runs commands and gives what they write. -/
def captured (act : Action Unit) : Action Chars := do
  let before ← get
  set { before with stdout := .output, written := [] }
  isolated act
  let text := inOrder (← get).written
  modify fun s => { s with stdout := before.stdout, written := before.written }
  return text

/-- Whether a loop goes on after its body has been run. -/
def roundEnded (body : Action Unit) : Action Bool := ExceptT.mk do
  return match ← body.run with
    | .ok () | .error .nextRound => .ok true
    | .error .leaveLoop => .ok false
    | .error stop => .error stop

/-- Runs a body once for each value of a variable. -/
def eachRound (name : String) (body : Action Unit) : List Chars → Action Unit
  | [] => return ()
  | value :: rest => do
    assign name value
    if ← roundEnded body then eachRound name body rest

/-- Whether one of some patterns matches a text. -/
def anyMatches (run : Chars → Action Chars) (text : Chars) : List Word → Action Bool
  | [] => return false
  | pattern :: rest => do
    if matchesAll (charsOf (← expand run pattern)) text then return true
    anyMatches run text rest

/-- Runs a command within `fuel` nested steps. -/
def execute : Nat → Command → Action Unit
  | 0, _ => throw .killed
  | fuel + 1, command => do
    let run (source : Chars) : Action Chars :=
      match read? source with
      | some inner => captured (execute fuel inner)
      | none => return []
    match command with
    | .nothing => return ()
    | .simple assignments words => do
      let fields := (← words.mapM (expandFields run)).flatten
      for (name, value) in assignments do assign name (← expandText run value)
      match fields with
      | [] => setStatus 0
      | name :: arguments => setStatus (← builtin (String.ofList name) arguments)
    | .redirected inner redirections => do
      thenReconnect (← get) do
        if ← redirectAll run redirections then execute fuel inner
    | .negation inner => do
      execute fuel inner
      setStatus (if (← get).status = 0 then 1 else 0)
    | .sequence first second => do
      execute fuel first
      execute fuel second
    | .both first second => do
      execute fuel first
      if (← get).status = 0 then execute fuel second
    | .either first second => do
      execute fuel first
      if (← get).status ≠ 0 then execute fuel second
    | .branch condition yes no => do
      execute fuel condition
      if (← get).status = 0 then execute fuel yes
      else
        setStatus 0
        execute fuel no
    | .loop untilTrue condition body => do
      execute fuel condition
      if ((← get).status == 0) != untilTrue then
        if ← roundEnded (execute fuel body) then execute fuel (.loop untilTrue condition body)
      else setStatus 0
    | .forEach name words body => do
      let values ← match words with
        | some words => List.flatten <$> words.mapM (expandFields run)
        | none => State.arguments <$> get
      setStatus 0
      eachRound name (execute fuel body) values
    | .select subject patterns body others => do
      let text ← expandText run subject
      if ← anyMatches run text patterns then
        setStatus 0
        execute fuel body
      else execute fuel others
    | .subshell inner => isolated (execute fuel inner)

/-! ## Scripts -/

def ending (result : Except Stop Unit) (s : State) : Ending :=
  match result with
  | .error .killed => .killed
  | _ => .exited s.status

/-- Runs a script, which has nothing to read. The disk keeps its working directory. -/
def runScript (env : Environment) (disk : Disk) (name : Chars) (arguments : List Chars)
    (source : Chars) : Finished × Disk :=
  let start : State :=
    { disk := disk, name := name, arguments := arguments
      bindings := env.bindings.map fun v => (v.1, ofOctets v.2)
      status := 0, input := [], stdout := .output, stderr := .errors
      written := [], complaints := [] }
  let whole : Action Unit := do
    match read? source with
    | some command => execute stepLimit command
    | none =>
      setStatus (← complain 2 "Syntax error".toList)
  let (result, after) := whole.run start
  (⟨toOctets (inOrder after.written), toOctets (inOrder after.complaints), ending result after⟩,
    { after.disk with workingDirectory := disk.workingDirectory })

/-- Runs the shell with its arguments: a file, after options that change nothing here, and the
arguments of its own. -/
def runShell (env : Environment) (disk : Disk) (arguments : List Bytes) : Finished × Disk :=
  match arguments.dropWhile fun a => a.head? == some 0x2D with
  | [] => (⟨[], [], .exited 0⟩, disk)
  | file :: rest =>
    let name := ofOctets file
    match disk.read ⟨file⟩ with
    | .ok data => runScript env disk name (rest.map ofOctets) (ofOctets data)
    | .error _ =>
      (⟨[], toOctets ("sh: 0: cannot open ".toList ++ name ++ ": No such file\n".toList),
        .exited 2⟩, disk)

end ToolBootstrap.Script
