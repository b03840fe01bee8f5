import GraphImport.Cypher.Literal
import GraphImport.Document.Basic
import GraphImport.Script

/-!
# What happens to an entry

An entry is either created, or looked for and created only if it is not there. What it is found by,
what a new entity gets and what is written on one that is found is decided here, alike for nodes and
relationships; then the decision is written as a statement around the pattern of the entry.

* `Action` — the decision, with `Entry.action`.
* `Change` — what is written on an entity that is found.
* `Pattern` — a node or relationship with its variables.
* `Action.statement` — the statement.
-/

namespace GraphImport

/-! ## Decisions -/

/-- What is written on an entity that is found. -/
inductive Change where
  /-- Each of the properties; others stay. -/
  | fields (p : Properties)
  /-- The properties, in place of all others. -/
  | whole (p : Properties)

/-- What happens to an entry. -/
inductive Action where
  /-- It is created with the properties. -/
  | create (p : Properties)
  /-- It is looked for by a pattern. If it is not there, it is created and gets its properties;
  otherwise it is changed. -/
  | merge (pattern created : Properties) (change : Change)

/-- The entity is created without looking for it. -/
def Action.creates : Action → Bool
  | create _ => true
  | merge .. => false

namespace Entry

/-- The properties by which an entry is found, or a key that its properties lack. -/
def pattern (e : Entry) : Except String Properties :=
  match e.matching with
  | .onProps | .create => .ok e.props
  | .onKeys keys => e.props.select keys
  | .onMap map => .ok map

/-- What is written if it is found, or a key that its properties lack. -/
def change (e : Entry) : Except String Change :=
  match e.updating with
  | .allProps => .ok (.fields e.props)
  | .onKeys keys => return .fields (← e.props.select keys)
  | .onMap map => .ok (if e.replace then .whole map else .fields map)

/-- What happens to an entry, or the first key that its properties lack. -/
def action (e : Entry) : Except String Action :=
  if e.matching.isCreate then .ok (.create e.props)
  else do
    let pattern ← e.pattern
    let change ← e.change
    return .merge pattern e.props change

end Entry

/-! ## Patterns -/

/-- What a statement is about, with its variables. -/
inductive Pattern where
  /-- A node. -/
  | node (v : Variable) (labels : List String)
  /-- A relationship between two nodes. -/
  | relationship (v source target : Variable) (type : String)

namespace Pattern

/-- The variable of the entry. -/
def subject : Pattern → Variable
  | node v _ => v
  | relationship v .. => v

/-- The properties inside a pattern; nothing if there are none. -/
def propertyText (mode : StringMode) (p : Properties) : String :=
  if p.anyPresent then " " ++ Cypher.mapLiteral mode p else ""

/-- A pattern with properties. -/
def text (mode : StringMode) (p : Properties) : Pattern → String
  | node v labels => "(" ++ v.name ++ Cypher.labels labels ++ propertyText mode p ++ ")"
  | relationship v source target type =>
    "(" ++ source.name ++ ")-[" ++ v.name ++ ":" ++ type ++ propertyText mode p ++ "]->("
      ++ target.name ++ ")"

/-- The kind of a statement about a pattern. -/
def kind (creates : Bool) : Pattern → Statement.Kind
  | node .. => if creates then .createNode else .mergeNode
  | relationship .. => if creates then .createRelationship else .mergeRelationship

end Pattern

/-! ## Statements -/

/-- The clause for a new entity; none if it gets no properties. -/
def createdClause (mode : StringMode) (v : Variable) (p : Properties) : List String :=
  if p.anyPresent then ["ON CREATE SET " ++ v.name ++ " = " ++ Cypher.mapLiteral mode p] else []

/-- The clause for an entity that is found; none if nothing is written. -/
def Change.clause (mode : StringMode) (v : Variable) : Change → List String
  | fields p => if p.anyPresent then ["ON MATCH SET " ++ Cypher.setItems mode v p] else []
  | whole p =>
    if p.anyPresent then ["ON MATCH SET " ++ v.name ++ " = " ++ Cypher.mapLiteral mode p] else []

namespace Action

/-- The parts of a statement, which stand with a space between them. -/
def parts (mode : StringMode) (pattern : Pattern) : Action → List String
  | create p => ["CREATE " ++ pattern.text mode p]
  | merge p created change =>
    ["MERGE " ++ pattern.text mode p] ++ createdClause mode pattern.subject created
      ++ change.clause mode pattern.subject

/-- The statement of an action. -/
def statement (mode : StringMode) (pattern : Pattern) (action : Action) : Statement where
  text := String.intercalate " " (action.parts mode pattern)
  kind := pattern.kind action.creates

end Action

end GraphImport
