import GraphImport.Cypher.Literal
import GraphImport.Json.Decoder
import GraphImport.Json.Printer

/-!
# Settings of a compilation

* `Compile.Settings` — how strings are written and how large a document may be.
* `Compile.Settings.toJson`, `Compile.Settings.ofText` — settings as JSON.
-/

namespace GraphImport

namespace StringMode

/-- The modes, in order. -/
def all : List StringMode := [verbatim, escaped]

/-- The name of a mode. -/
def name : StringMode → String
  | verbatim => "Verbatim"
  | escaped => "Escaped"

/-- The modes by name. -/
def byName : Entries StringMode := all.map fun mode => (mode.name, mode)

/-- A mode is read by its name. -/
def decoder : Json.Decoder StringMode := .choice byName

end StringMode

namespace Compile

/-- Settings of a compilation. -/
structure Settings where
  /-- How strings are written. -/
  mode : StringMode
  /-- The largest number of nodes, if there is a limit. -/
  maxNodes : Option Nat
  /-- The largest number of relationships, if there is a limit. -/
  maxRelationships : Option Nat
deriving DecidableEq

namespace Settings

/-- Strings as they are, and no limits. -/
def default : Settings := ⟨.verbatim, none, none⟩

instance : Inhabited Settings := ⟨default⟩

/-- The same settings with strings escaped. -/
def escaping (s : Settings) : Settings := { s with mode := .escaped }

/-! ## As JSON -/

/-- A limit as JSON. -/
def limitJson : Option Nat → Json
  | none => .null
  | some limit => .number (.integer limit)

/-- Settings as JSON. -/
def toJson (s : Settings) : Json :=
  .object [
    ("literal_mode", .string s.mode.name),
    ("max_nodes", limitJson s.maxNodes),
    ("max_relationships", limitJson s.maxRelationships)]

/-- The settings that have been read so far. -/
structure Partial where
  /-- How strings are written. -/
  mode : Option StringMode
  /-- The largest number of nodes. -/
  maxNodes : Option (Option Nat)
  /-- The largest number of relationships. -/
  maxRelationships : Option (Option Nat)

/-- A limit is a natural number of 64 bits or null. -/
def limit : Json.Decoder (Option Nat) := .optional (.natural "usize")

/-- The fields of the settings; limits may be left out of an object. -/
def record : Json.Record Partial Settings where
  name := "CompileConfig"
  fields := [
    .ofDecoder "literal_mode" false Partial.mode
      (fun state mode => { state with mode := some mode }) StringMode.decoder,
    .ofDecoder "max_nodes" false Partial.maxNodes
      (fun state limit => { state with maxNodes := some limit }) limit,
    .ofDecoder "max_relationships" false Partial.maxRelationships
      (fun state limit => { state with maxRelationships := some limit }) limit]
  start := ⟨none, none, none⟩
  finish := fun state => do
    let mode ← Json.Record.required "literal_mode" state.mode
    return ⟨mode, state.maxNodes.join, state.maxRelationships.join⟩

/-- The settings that a JSON text stands for. -/
def ofText (text : String) : Except Json.ReadError Settings := Json.decode record.decoder text

end Settings

end Compile

end GraphImport
