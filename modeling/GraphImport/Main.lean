import GraphImport.CommandLine.Run

/-!
# The program

Reads the real file of a command, runs the command, and carries out what it asks for. There is no
network here: every server counts as unreachable.
-/

open GraphImport.CommandLine

/-- The fault of the system as a fault of a file. -/
def fileFaultOf (error : IO.Error) : FileFault :=
  match error with
  | .noFileOrDirectory .. => .missing
  | .inappropriateType .. => .isDirectory
  | error => .described error.toString

/-- What stands under a path of the real file system. A directory is known by the fault of reading
it, which does not tell its size. -/
def realState (path : String) : IO (Except FileFault FileState) := do
  try return .ok (.file (← IO.FS.readBinFile path))
  catch error =>
    match fileFaultOf error with
    | .isDirectory => return .ok .directory
    | fault => return .error fault

/-- Writes a real file. -/
def writeReal (path content : String) : IO (Except FileFault Unit) := do
  try
    IO.FS.writeFile path content
    return .ok ()
  catch error => return .error (fileFaultOf error)

/-- The outcome of a command on real files. -/
def finishReal : Step → IO Outcome
  | .done outcome => return outcome
  | .write path content resume => return resume (← writeReal path content)

/-- Runs the program on its arguments. -/
def main (words : List String) : IO UInt32 := do
  match Invocation.ofWords? words with
  | none =>
    (← IO.getStderr).putStr "usage: graphload (compile | load) [OPTIONS] FILE\n"
    return Program.usageCode.toUInt32
  | some .version =>
    (← IO.getStdout).putStr Program.versionLine
    return 0
  | some (.command c) =>
    let limit := sizeLimitOf (← IO.getEnv sizeVariable)
    let outcome ← finishReal (c.start ⟨limit, .unreachable⟩ (← realState c.file))
    let result := Program.ofOutcome outcome
    (← IO.getStdout).putStr result.stdout
    (← IO.getStderr).putStr result.stderr
    return result.code.toUInt32
