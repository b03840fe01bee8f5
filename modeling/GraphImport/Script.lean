import GraphImport.Json.Decoder
import GraphImport.Json.Printer

/-!
# Scripts

The statements that a document is compiled to, one for each entry.

* `Statement.Kind`, `Statement` — one statement.
* `Script` — statements in order, on one line (`Script.combined`) or line by line
  (`Script.lines`).
* `Script.toJson`, `Script.record` — a script as JSON.
-/

namespace GraphImport

/-! ## Statements -/

/-- What a statement does. -/
inductive Statement.Kind where
  /-- Creates a node. -/
  | createNode
  /-- Finds a node or creates it. -/
  | mergeNode
  /-- Creates a relationship. -/
  | createRelationship
  /-- Finds a relationship or creates it. -/
  | mergeRelationship
deriving DecidableEq

namespace Statement.Kind

/-- The kinds, in order. -/
def all : List Statement.Kind := [createNode, mergeNode, createRelationship, mergeRelationship]

/-- The name of a kind. -/
def name : Statement.Kind → String
  | createNode => "CreateNode"
  | mergeNode => "MergeNode"
  | createRelationship => "CreateRelationship"
  | mergeRelationship => "MergeRelationship"

/-- The statement is about a node. -/
def isNode : Statement.Kind → Bool
  | createNode | mergeNode => true
  | createRelationship | mergeRelationship => false

/-- The statement looks for what it is about before it creates it. -/
def isMerge : Statement.Kind → Bool
  | mergeNode | mergeRelationship => true
  | createNode | createRelationship => false

/-- The kinds by name. -/
def byName : Entries Statement.Kind := all.map fun kind => (kind.name, kind)

/-- A kind is read by its name. -/
def decoder : Json.Decoder Statement.Kind := .choice byName

end Statement.Kind

/-- A statement. -/
structure Statement where
  /-- Its text. -/
  text : String
  /-- What it does. -/
  kind : Statement.Kind
deriving DecidableEq

namespace Statement

/-- A statement as JSON. -/
def toJson (s : Statement) : Json :=
  .object [("text", .string s.text), ("kind", .string s.kind.name)]

/-- The fields of a statement. -/
def record : Json.Record (Option String × Option Statement.Kind) Statement where
  name := "Statement"
  fields := [
    .ofDecoder "text" false Prod.fst (fun state value => (some value, state.2)) .text,
    .ofDecoder "kind" false Prod.snd (fun state value => (state.1, some value))
      Statement.Kind.decoder]
  start := (none, none)
  finish := fun state => do
    let text ← Json.Record.required "text" state.1
    let kind ← Json.Record.required "kind" state.2
    return { text, kind }

end Statement

/-! ## Scripts -/

/-- Statements, in order. -/
structure Script where
  /-- The statements. -/
  statements : List Statement
deriving DecidableEq

namespace Script

/-- Number of statements. -/
def size (s : Script) : Nat := s.statements.length

/-- There is no statement. -/
def isEmpty (s : Script) : Bool := s.statements.isEmpty

/-- The texts of the statements. -/
def texts (s : Script) : List String := s.statements.map Statement.text

/-- The statements as one statement, with spaces between them. -/
def combined (s : Script) : String := String.intercalate " " s.texts

/-- The statements, one per line. -/
def lines (s : Script) : String := String.intercalate "\n" s.texts

/-- The statements of a kind. -/
def ofKind (s : Script) (kind : Statement.Kind) : List Statement :=
  s.statements.filter fun statement => statement.kind = kind

/-- How many statements are about nodes. -/
def nodeCount (s : Script) : Nat := s.statements.countP fun statement => statement.kind.isNode

/-- A script as JSON. -/
def toJson (s : Script) : Json :=
  .object [("statements", .array (s.statements.map Statement.toJson))]

/-- The field of a script. -/
def record : Json.Record (Option (List Statement)) Script where
  name := "ImportScript"
  fields := [
    .ofDecoder "statements" false id (fun _ value => some value)
      (.list Statement.record.decoder)]
  start := none
  finish := fun state => do
    let statements ← Json.Record.required "statements" state
    return { statements }

/-- The script that a JSON text stands for. -/
def ofText (text : String) : Except Json.ReadError Script := Json.decode record.decoder text

end Script

end GraphImport
