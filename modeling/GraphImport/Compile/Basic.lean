import GraphImport.Compile.Action
import GraphImport.Compile.Settings
import GraphImport.Document.Reader
import GraphImport.Error
import GraphImport.Event

/-!
# Compiling documents

A document is compiled entry by entry, nodes first. Node `i` is bound under the key `i` and
relationship `j` of a document with `n` nodes under the key `n + j`. The scope outlives a failed
compilation: the entries up to the failing one stay bound.

* `Compile.node`, `Compile.relationship` — the statement of one entry.
* `Compile.document` — the script of a document, in a given scope.
* `compile`, `compileText` — the script of a document or text, in a scope of its own.
* `compileEvents` — what a compilation reports.
-/

namespace GraphImport

namespace Compile

/-- The result of a step, and the scope after it. -/
abbrev Scoped (α : Type) := Except ImportError α × Scope

/-! ## One entry -/

/-- The statement of an action that may have failed on a missing key. -/
def finish (mode : StringMode) (ref : EntryRef) (pattern : Pattern) (entry : Entry) :
    Except ImportError Statement :=
  match entry.action with
  | .ok action => .ok (action.statement mode pattern)
  | .error key => .error (.unknownKey ref key)

/-- The statement of the node that is bound under the key. -/
def node (mode : StringMode) (key : Nat) (n : Node) (scope : Scope) : Scoped Statement :=
  let (v, scope) := scope.bind key
  (finish mode (.node key) (.node v n.labels) n.toEntry, scope)

/-- The node at an end of a relationship. -/
def endpoint (ref : EntryRef) (which : Endpoint) (index : Int) (nodeCount : Nat) :
    Except ImportError Nat :=
  if 0 ≤ index ∧ index < nodeCount then .ok index.toNat
  else .error (.noSuchNode ref which index nodeCount)

/-- The nodes between which a relationship runs; it has to have a type. -/
def ends (ref : EntryRef) (nodeCount : Nat) (r : Relationship) :
    Except ImportError (Nat × Nat) := do
  let source ← endpoint ref .source r.source nodeCount
  let target ← endpoint ref .target r.target nodeCount
  if r.type.isEmpty then throw (.noType ref)
  return (source, target)

/-- The statement of the relationship that is bound under the key, in a document with so many
nodes. Nothing is bound if an end or the type is at fault. -/
def relationship (mode : StringMode) (key nodeCount : Nat) (r : Relationship) (scope : Scope) :
    Scoped Statement :=
  let ref := EntryRef.relationship (key - nodeCount)
  match ends ref nodeCount r with
  | .error error => (.error error, scope)
  | .ok (source, target) =>
    let (v, scope) := scope.bind key
    let (a, scope) := scope.bind source
    let (b, scope) := scope.bind target
    (finish mode ref (.relationship v a b r.type) r.toEntry, scope)

/-! ## All entries -/

/-- Compiles entries one after the other, up to the first that fails; `key` is the key of the
first. -/
def each {α : Type} (step : (key : Nat) → α → Scope → Scoped Statement) :
    (key : Nat) → List α → Scope → Scoped (List Statement)
  | _, [], scope => (.ok [], scope)
  | key, entry :: rest, scope =>
    match step key entry scope with
    | (.error error, scope) => (.error error, scope)
    | (.ok statement, scope) =>
      match each step (key + 1) rest scope with
      | (.error error, scope) => (.error error, scope)
      | (.ok statements, scope) => (.ok (statement :: statements), scope)

/-- There may not be more than the limit. -/
def checkLimit (error : (count limit : Nat) → ImportError) (count : Nat) :
    Option Nat → Except ImportError Unit
  | none => .ok ()
  | some limit => if limit < count then .error (error count limit) else .ok ()

/-- The document is within the limits. -/
def checkLimits (settings : Settings) (d : Document) : Except ImportError Unit := do
  checkLimit .tooManyNodes d.nodes.length settings.maxNodes
  checkLimit .tooManyRelationships d.relationships.length settings.maxRelationships

/-- The statements of all entries. -/
def entries (mode : StringMode) (d : Document) (scope : Scope) : Scoped (List Statement) :=
  let nodeCount := d.nodes.length
  match each (node mode) 0 d.nodes scope with
  | (.error error, scope) => (.error error, scope)
  | (.ok nodes, scope) =>
    match each (fun key => relationship mode key nodeCount) nodeCount d.relationships scope with
    | (.error error, scope) => (.error error, scope)
    | (.ok relationships, scope) => (.ok (nodes ++ relationships), scope)

/-- The script of a document, and the scope after it. -/
def document (settings : Settings) (d : Document) (scope : Scope) : Scoped Script :=
  match checkLimits settings d with
  | .error error => (.error error, scope)
  | .ok () =>
    match entries settings.mode d scope with
    | (.error error, scope) => (.error error, scope)
    | (.ok statements, scope) => (.ok ⟨statements⟩, scope)

end Compile

/-! ## In a scope of its own -/

/-- The script of a document. -/
def compile (settings : Compile.Settings) (d : Document) : Except ImportError Script :=
  (Compile.document settings d .empty).1

/-- The script of the document that a text holds. -/
def compileText (settings : Compile.Settings) (text : String) : Except ImportError Script := do
  compile settings (← Document.ofText text)

/-- What a compilation in a scope of its own reports: on success the counts and the script, line by
line. -/
def compileEvents (settings : Compile.Settings) (d : Document) : List Event :=
  match Compile.document settings d .empty with
  | (.error _, _) => []
  | (.ok script, scope) => [
    .of .debug "compiled import document" [
      ("nodes", toString d.nodes.length),
      ("relationships", toString d.relationships.length),
      ("references", toString scope.size)],
    .of .debug script.lines []]

/-- What compiling a text reports. -/
def compileTextEvents (settings : Compile.Settings) (text : String) : List Event :=
  match Document.ofText text with
  | .error _ => []
  | .ok d => compileEvents settings d

end GraphImport
