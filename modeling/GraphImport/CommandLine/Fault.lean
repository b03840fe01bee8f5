import GraphImport.CommandLine.Files
import GraphImport.Error

/-!
# Faults of commands

* `CommandFault` — why a command fails, with its wording.
-/

namespace GraphImport.CommandLine

/-- Why a command fails. -/
inductive CommandFault where
  /-- A file cannot be read or written. -/
  | file (path : String) (fault : FileFault)
  /-- A file has more bytes than allowed. -/
  | tooLarge (path : String) (size limit : Nat)
  /-- The document cannot be compiled. -/
  | compile (error : ImportError)
  /-- The script cannot be delivered. -/
  | delivery (error : ImportError)
  /-- JSON for the output cannot be made. -/
  | jsonFormat (error : Json.ReadError)
deriving DecidableEq

/-- Number of bytes of a mebibyte. -/
def mebibyte : Nat := 1024 * 1024

/-- The variable of the environment that sets the size limit. -/
def sizeVariable : String := "GRAPHLOAD_MAX_FILE_SIZE"

/-- The wording of a fault. -/
def CommandFault.message : CommandFault → String
  | file path fault => "I/O error for '" ++ path ++ "': " ++ fault.message
  | tooLarge path size limit =>
    "File '" ++ path ++ "' is too large (" ++ toString size ++ " bytes). Maximum allowed: "
      ++ toString limit ++ " bytes (" ++ toString (limit / mebibyte) ++ " MB). Set "
      ++ sizeVariable ++ " to raise it"
  | compile error => "Compile error: " ++ error.message
  | delivery error => "Delivery error: " ++ error.message
  | jsonFormat error => "JSON format error: " ++ error.message

end GraphImport.CommandLine
