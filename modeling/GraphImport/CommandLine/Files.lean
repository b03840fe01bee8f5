import GraphImport.Entries
import GraphImport.Text.Parts

/-!
# Files

The files of a directory, as far as commands look at them, and what a path leads to.

* `FileState` — a directory with its size or a file with its content.
* `FileFault` — why a file cannot be read or written, in the words of the system.
* `Files` — files by path, with `Files.state` and `Files.write`.
-/

namespace GraphImport.CommandLine

/-- The size of a directory of which none is told, in bytes. -/
def usualDirectorySize : Nat := 4096

/-- What stands under a path. -/
inductive FileState where
  /-- A directory, with its size in bytes. -/
  | directory (size : Nat := usualDirectorySize)
  /-- A file with its content. -/
  | file (content : ByteArray)

/-- Why a file cannot be read or written. -/
inductive FileFault where
  /-- Nothing stands under the path. -/
  | missing
  /-- A directory stands under the path. -/
  | isDirectory
  /-- The path goes on behind a file. -/
  | notDirectory
  /-- A name of the path is too long. -/
  | nameTooLong
  /-- The path holds a zero character. -/
  | zeroInPath
  /-- The content is no text. -/
  | notText
  /-- Another fault, in the words of the system. -/
  | described (text : String)
deriving DecidableEq

/-- The wording of a fault. -/
def FileFault.message : FileFault → String
  | missing => "No such file or directory (os error 2)"
  | isDirectory => "Is a directory (os error 21)"
  | notDirectory => "Not a directory (os error 20)"
  | nameTooLong => "File name too long (os error 36)"
  | zeroInPath => "file name contained an unexpected NUL byte"
  | notText => "stream did not contain valid UTF-8"
  | described text => text

/-- The size of what stands under a path, in bytes. -/
def FileState.size : FileState → Nat
  | directory size => size
  | file content => content.size

/-- The text of a file. -/
def FileState.text : FileState → Except FileFault String
  | directory _ => .error .isDirectory
  | file content =>
    match String.fromUTF8? content with
    | some text => .ok text
    | none => .error .notText

/-! ## Paths -/

/-- Files and directories by path. Paths are written with slashes between names. A directory that
holds a file need not be listed, and one that is listed can be above the starting directory. -/
abbrev Files := Entries FileState

namespace Files

/-- A place, as the names that lead to it, the last one first. -/
abbrev Place := List String

/-- The path of a place. -/
def pathOf (place : Place) : String := String.intercalate "/" place.reverse

/-- The directory at a place, with its size if it is listed. -/
def directoryAt (files : Files) (place : Place) : FileState :=
  match files.find? (pathOf place) with
  | some (.directory size) => .directory size
  | _ => .directory

/-- What stands at a place. Directories above the starting one are there, and nothing else is. -/
def stateAt (files : Files) (place : Place) : Option FileState :=
  if place.all (· == "..") then some (files.directoryAt place)
  else
    match files.find? (pathOf place) with
    | some state => some state
    | none =>
      if files.keys.any fun path => (pathOf place ++ "/").toList.isPrefixOf path.toList then
        some .directory
      else none

/-- The place that a name leads to. -/
def step (place : Place) (name : String) : Place :=
  if name = "." then place
  else if name = ".." then
    match place with
    | [] => [".."]
    | last :: above => if last = ".." then ".." :: place else above
  else name :: place

/-- Only a directory can be looked into. -/
def needDirectory (files : Files) (place : Place) : Except FileFault Unit :=
  match stateAt files place with
  | none => .error .missing
  | some (.file _) => .error .notDirectory
  | some (.directory _) => .ok ()

/-- The largest number of bytes of a name. -/
def maxNameSize : Nat := 255

/-- The place that a name in a directory leads to. -/
def enter (files : Files) (place : Place) (name : String) : Except FileFault Place := do
  needDirectory files place
  if maxNameSize < name.utf8ByteSize then throw .nameTooLong
  return step place name

/-- The number of bytes that a path does not reach. -/
def pathSizeLimit : Nat := 4096

/-- The text can be handed over as a path. -/
def checkPath (path : String) : Except FileFault Unit := do
  if path.toList.contains '\x00' then throw .zeroInPath
  if path.isEmpty then throw .missing
  if pathSizeLimit ≤ path.utf8ByteSize then throw .nameTooLong

/-- The names in a path. -/
def names (path : String) : List String :=
  ((Text.parts (· == '/') path.toList).filter (!·.isEmpty)).map String.ofList

/-- Where a path starts: at the top of the file system, which counts as a place above the starting
directory, or in the starting directory. -/
def origin (path : String) : Place := if path.toList.head? = some '/' then [".."] else []

/-- The path ends with a slash, so that it stands for a directory. -/
def endsOpen (path : String) : Bool := path.toList.getLast? = some '/'

/-- What stands under a path. -/
def state (files : Files) (path : String) : Except FileFault FileState := do
  checkPath path
  let place ← (names path).foldlM files.enter (origin path)
  match stateAt files place with
  | none => throw .missing
  | some (.directory size) => return .directory size
  | some (.file content) => if endsOpen path then throw .notDirectory else return .file content

/-- The files after a file has been written. Its directory has to be there; a path that can only
stand for a directory is told apart before its last name is looked up. -/
def write (files : Files) (path : String) (content : ByteArray) : Except FileFault Files := do
  checkPath path
  match (names path).getLast? with
  | none => throw .isDirectory
  | some last =>
    let directory ← (names path).dropLast.foldlM files.enter (origin path)
    needDirectory files directory
    if last = "." || last = ".." || endsOpen path then throw .isDirectory
    let place ← enter files directory last
    match stateAt files place with
    | some (.directory _) => throw .isDirectory
    | _ => return files.insert (pathOf place) (.file content)

end Files

end GraphImport.CommandLine
