import GraphImport.CommandLine.Arguments
import GraphImport.CommandLine.Fault
import GraphImport.Delivery.Outcome

/-!
# Running commands

A command is given what reading its file came to and how the server answers. It runs until it is
done or wants a file to be written; then it is told what came of the writing. So the same command
runs on real files and on files that are given as values.

* `Environment` — the size limit and the answer of the server.
* `Outcome` — what a command printed, sent and reported, and whether it failed.
* `Step` — a command that is done or waits for a file to be written.
* `Command.start` — the first step of a command.
* `Step.finish`, `Command.run` — a command on given files.
* `Program.ofOutcome`, `Program.run` — the program around the commands, with its exit code.
-/

namespace GraphImport.CommandLine

/-- What a command finds around it, apart from files. -/
structure Environment where
  /-- The largest size of a file that is read, in bytes. -/
  sizeLimit : Nat
  /-- How the server answers. -/
  answer : Delivery.Answer

/-- One gibibyte. -/
def defaultSizeLimit : Nat := 1024 * mebibyte

/-- The size limit that a variable of the environment sets; what is no number of 64 bits sets
none. -/
def sizeLimitOf (setting : Option String) : Nat :=
  (setting.bind unsigned?).getD defaultSizeLimit

/-- What a command has done. -/
structure Outcome where
  /-- The text on the standard output. -/
  stdout : String
  /-- The text on the standard error output. -/
  stderr : String
  /-- Whether the command failed. -/
  result : Except CommandFault Unit
  /-- The request that was sent, if one was. -/
  request : Option Delivery.Request
  /-- What was reported, in order. -/
  events : List Event

/-- A command that is done, or waits for a file to be written. -/
inductive Step where
  /-- The command is done. -/
  | done (outcome : Outcome)
  /-- A file is to be written; then the command goes on with what came of it. -/
  | write (path content : String) (resume : Except FileFault Unit → Outcome)

/-! ## Files -/

/-- Reported before a file is read. -/
def readEvent (path : String) (size : Nat) : Event :=
  .of .debug "reading import document" [("path", path), ("bytes", toString size)]

/-- The text of a file that is not too large; `found` is what stands under the path. -/
def readText (limit : Nat) (path : String) (found : Except FileFault FileState) :
    Except CommandFault String × List Event :=
  match found with
  | .error fault => (.error (.file path fault), [])
  | .ok state =>
    if limit < state.size then (.error (.tooLarge path state.size limit), [])
    else
      match state.text with
      | .error fault => (.error (.file path fault), [readEvent path state.size])
      | .ok text => (.ok text, [readEvent path state.size])

/-- Writes a text to a file, or to the standard output if there is none; the command goes on with
what came of it and the text on the standard output. -/
def writeText (target : Option String) (content : String)
    (resume : Except CommandFault Unit → (stdout : String) → Outcome) : Step :=
  match target with
  | none => .done (resume (.ok ()) content)
  | some path =>
    .write path content fun result =>
      match result with
      | .ok () => resume (.ok ()) ""
      | .error fault => resume (.error (.file path fault)) ""

/-- Copies the text of a file. -/
def copyText (env : Environment) (path : String) (found : Except FileFault FileState)
    (target : Option String) : Step :=
  match readText env.sizeLimit path found with
  | (.error fault, events) => .done ⟨"", "", .error fault, none, events⟩
  | (.ok text, events) =>
    writeText target text fun result stdout => ⟨stdout, "", result, none, events⟩

/-! ## Commands -/

/-- The settings of a compilation without limits. -/
def settingsFor (escapeStrings : Bool) : Compile.Settings :=
  if escapeStrings then Compile.Settings.default.escaping else .default

/-- The script of the document in a file. -/
def compileFile (env : Environment) (escapeStrings : Bool) (path : String)
    (found : Except FileFault FileState) : Except CommandFault Script × List Event :=
  match readText env.sizeLimit path found with
  | (.error fault, events) => (.error fault, events)
  | (.ok text, events) =>
    let settings := settingsFor escapeStrings
    let events := events ++ compileTextEvents settings text
    match compileText settings text with
    | .error error => (.error (.compile error), events)
    | .ok script => (.ok script, events)

/-- A script in a format; a line break follows unless there is nothing. -/
def render (script : Script) (format : Format) : String :=
  let text :=
    match format with
    | .lines => script.lines
    | .combined => script.combined
    | .request => (Delivery.transactionJson script.combined).pretty
  if text.isEmpty then text else text ++ "\n"

/-- The line that says that a command failed on a file. -/
def failureLine (file : String) : String := "✗ " ++ file ++ "\n"

/-- The line that says what was compiled. -/
def compiledLine (file : String) (script : Script) : String :=
  "✓ " ++ file ++ " (" ++ toString script.nodeCount ++ " nodes, "
    ++ toString (script.size - script.nodeCount) ++ " relationships)\n"

/-- The line that says that there is nothing to deliver. -/
def emptyLine (file : String) : String := "✓ " ++ file ++ " (nothing to load)\n"

/-- The line that says where a script was delivered to. -/
def loadedLine (file uri : String) (script : Script) : String :=
  "✓ " ++ file ++ " -> " ++ uri ++ " (" ++ toString script.size ++ " statements)\n"

/-- The line for a statement error that the server reports. -/
def warningLine (error : ServerError) : String := "  warning " ++ error.text ++ "\n"

/-- Reported before a script is delivered. -/
def loadEvent (file : String) (script : Script) : Event :=
  .of .info "loading import document" [("file", file), ("statements", toString script.size)]

/-- Writes the script of a document. The line about it goes to the standard error output, so that
the statements can be piped. -/
def compileCommand (env : Environment) (file : String) (options : ScriptOptions)
    (found : Except FileFault FileState) : Step :=
  match compileFile env options.escapeStrings file found with
  | (.error fault, events) => .done ⟨"", failureLine file, .error fault, none, events⟩
  | (.ok script, events) =>
    writeText options.output (render script options.format) fun result stdout =>
      match result with
      | .ok () => ⟨stdout, compiledLine file script, .ok (), none, events⟩
      | .error fault => ⟨stdout, "", .error fault, none, events⟩

/-- Delivers the script of a document. A script without statements is not sent. -/
def loadCommand (env : Environment) (file : String) (options : LoadTarget)
    (found : Except FileFault FileState) : Outcome :=
  match compileFile env options.escapeStrings file found with
  | (.error fault, events) => ⟨"", "", .error fault, none, events⟩
  | (.ok script, events) =>
    if script.isEmpty then ⟨emptyLine file, "", .ok (), none, events⟩
    else
      let delivered := Delivery.send options.delivery script env.answer
      let events := events ++ loadEvent file script :: delivered.events
      match delivered.result with
      | .ok report =>
        ⟨String.join (report.errors.map warningLine)
            ++ loadedLine file options.delivery.baseUri script,
          "", .ok (), delivered.request, events⟩
      | .error error =>
        ⟨failureLine file, "", .error (.delivery error), delivered.request, events⟩

/-- The first step of a command; `found` is what stands under the path of its file. -/
def Command.start (env : Environment) (found : Except FileFault FileState) : Command → Step
  | compile file options => compileCommand env file options found
  | load file options => .done (loadCommand env file options found)

/-! ## On given files -/

/-- Finishes a command on given files; the files may have changed. -/
def Step.finish (files : Files) : Step → Outcome × Files
  | done outcome => (outcome, files)
  | write path content resume =>
    match files.write path content.toUTF8 with
    | .ok files => (resume (.ok ()), files)
    | .error fault => (resume (.error fault), files)

/-- Runs a command on given files. -/
def Command.run (env : Environment) (files : Files) (c : Command) : Outcome × Files :=
  (c.start env (files.state c.file)).finish files

/-! ## The program -/

/-- What a program leaves behind. -/
structure ProgramResult where
  /-- The exit code. -/
  code : Nat
  /-- The text on the standard output. -/
  stdout : String
  /-- The text on the standard error output. -/
  stderr : String
  /-- The request that was sent, if one was. -/
  request : Option Delivery.Request

namespace Program

/-- The line that tells the version. -/
def versionLine : String := "graphload 1.0.0\n"

/-- The exit code for words that stand for no command. -/
def usageCode : Nat := 2

/-- What the program makes of the outcome of a command: a failure is told on the standard error
output. -/
def ofOutcome (outcome : Outcome) : ProgramResult :=
  match outcome.result with
  | .ok () => ⟨0, outcome.stdout, outcome.stderr, outcome.request⟩
  | .error fault =>
    ⟨1, outcome.stdout, outcome.stderr ++ "Error: " ++ fault.message ++ "\n", outcome.request⟩

/-- Runs the program on given files. -/
def run (env : Environment) (files : Files) (words : List String) : ProgramResult × Files :=
  match Invocation.ofWords? words with
  | none => (⟨usageCode, "", "", none⟩, files)
  | some .version => (⟨0, versionLine, "", none⟩, files)
  | some (.command c) =>
    let (outcome, files) := c.run env files
    (ofOutcome outcome, files)

end Program

end GraphImport.CommandLine
