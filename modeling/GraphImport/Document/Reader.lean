import GraphImport.Document.Basic
import GraphImport.Error
import GraphImport.Json.Decoder

/-!
# Reading documents

A document is read in two steps. The outline — two lists of objects — is read from text or from a
JSON value; both ways refuse another outline with the same kind of error. Then the fields of every
object are read, nodes first, and the first field that cannot be read is reported with its entry.
A field whose value is null counts as absent; fields of other names are ignored.

* `Outline` — the objects that a document lists, with `Outline.ofText` and `Outline.ofJson`.
* `Node.ofMembers`, `Relationship.ofMembers` — the entry that an object stands for.
* `Document.ofText`, `Document.ofJson`.
-/

namespace GraphImport

/-! ## The outline -/

/-- The objects that a document lists. -/
structure Outline where
  /-- The objects of the nodes. -/
  nodes : List (Entries Json)
  /-- The objects of the relationships. -/
  relationships : List (Entries Json)

namespace Outline

/-- A list of objects. -/
def objects : Json.Decoder (List (Entries Json)) := .list (.members .any)

/-- The outline as it is read from text; an absent list is empty. -/
def record : Json.Record (Option (List (Entries Json)) × Option (List (Entries Json))) Outline where
  name := "RawDocument"
  fields := [
    .ofDecoder "nodes" true Prod.fst (fun state value => (some value, state.2)) objects,
    .ofDecoder "rels" true Prod.snd (fun state value => (state.1, some value)) objects]
  start := (none, none)
  finish := fun state => .ok ⟨state.1.getD [], state.2.getD []⟩

/-- The outline of a text. -/
def ofText (text : String) : Except Json.ReadError Outline := Json.decode record.decoder text

/-- A value of another type than the expected one. -/
def wrongType (expected : String) (json : Json) : Json.ReadError :=
  ⟨.wrongType (Json.found json) expected, none⟩

/-- The members of a value that has to be an object. -/
def membersOf : Json → Except Json.ReadError (Entries Json)
  | .object members => .ok members
  | json => .error (wrongType "a map" json)

/-- The objects of a value that has to be an array of objects. -/
def objectsOf : Json → Except Json.ReadError (List (Entries Json))
  | .array items => items.mapM membersOf
  | json => .error (wrongType "a sequence" json)

/-- The objects of a member that may be absent. -/
def objectsOf? : Option Json → Except Json.ReadError (List (Entries Json))
  | none => .ok []
  | some json => objectsOf json

/-- The lists among the members of an object, read in the order of the members. -/
def ofMembers (outline : Outline) : Entries Json → Except Json.ReadError Outline
  | [] => .ok outline
  | (key, json) :: rest =>
    if key = "nodes" then do ofMembers { outline with nodes := ← objectsOf json } rest
    else if key = "rels" then do ofMembers { outline with relationships := ← objectsOf json } rest
    else ofMembers outline rest

/-- The outline of a JSON value: of an object, or of an array that holds the two lists. -/
def ofJson : Json → Except Json.ReadError Outline
  | .object members => ofMembers ⟨[], []⟩ members
  | .array items => do
    let nodes ← objectsOf? items[0]?
    let relationships ← objectsOf? items[1]?
    if 2 < items.length then
      throw ⟨.wrongLength items.length "fewer elements in array", none⟩
    return ⟨nodes, relationships⟩
  | json => .error (wrongType record.expected json)

end Outline

/-! ## The fields of an entry -/

/-- The value of a field; a null counts as absent. -/
def fieldValue? (name : String) (members : Entries Json) : Option Json :=
  (members.find? name).filter fun json => !json.isNull

/-- The properties that an object stands for. -/
def readProperties (members : Entries Json) : Except FieldProblem Properties :=
  match Properties.ofMembers members with
  | .ok p => .ok p
  | .error problem => .error (.property problem)

/-- A string, or the given problem. -/
def readString (problem : FieldProblem) : Json → Except FieldProblem String
  | .string s => .ok s
  | _ => .error problem

/-- The properties of an entry. -/
def readProps : Option Json → Except FieldProblem Properties
  | none => .ok .empty
  | some (.object members) => readProperties members
  | some _ => .error .notObject

/-- By what an entry is found. -/
def readMatch : Option Json → Except FieldProblem MatchRule
  | none => .ok .onProps
  | some (.bool false) => .ok .create
  | some (.array items) => return .onKeys (← items.mapM (readString .keyNotString))
  | some (.object members) => return .onMap (← readProperties members)
  | some _ => .error .notMatchRule

/-- What is written when an entry is found; an empty list or object says nothing. -/
def readUpdate : Option Json → Except FieldProblem UpdateRule
  | none => .ok .allProps
  | some (.array []) => .ok .allProps
  | some (.object []) => .ok .allProps
  | some (.array items) => return .onKeys (← items.mapM (readString .keyNotString))
  | some (.object members) => return .onMap (← readProperties members)
  | some _ => .error .notUpdateRule

/-- Whether an update takes the place of all properties. -/
def readReplace : Option Json → Except FieldProblem Bool
  | none => .ok false
  | some (.bool b) => .ok b
  | some _ => .error .notFlag

/-- The labels of a node. -/
def readLabels : Option Json → Except FieldProblem (List String)
  | none => .ok []
  | some (.array items) => items.mapM (readString .labelNotString)
  | some _ => .error .notLabelList

/-- The integer that a number is, if it is one of 64 bits with a sign. -/
def index? : Json.Number → Option Int
  | .integer n => if Json.Number.isSigned n then some n else none
  | .double x => x.wholeNumber?.filter fun n => Json.Number.isSigned n

/-- An end of a relationship. -/
def readIndex : Option Json → Except FieldProblem Int
  | none => .error .missingIndex
  | some (.number n) =>
    match index? n with
    | some index => .ok index
    | none => .error .notIndex
  | some _ => .error .notIndex

/-- The type of a relationship. -/
def readType : Option Json → Except FieldProblem String
  | none => .ok ""
  | some json => readString .typeNotString json

/-! ## Entries and documents -/

/-- Reads one field of an entry, and names the entry and the field if it cannot be read. -/
def readField {α : Type} (entry : EntryRef) (name : String)
    (read : Option Json → Except FieldProblem α) (members : Entries Json) :
    Except ImportError α :=
  match read (fieldValue? name members) with
  | .ok value => .ok value
  | .error problem => .error (.badField entry name problem)

/-- The fields that nodes and relationships have in common. -/
def Entry.ofMembers (entry : EntryRef) (members : Entries Json) : Except ImportError Entry := do
  let props ← readField entry "props" readProps members
  let matching ← readField entry "match" readMatch members
  let updating ← readField entry "update" readUpdate members
  let replace ← readField entry "replace" readReplace members
  return { props, matching, updating, replace }

/-- The node that an object stands for. -/
def Node.ofMembers (index : Nat) (members : Entries Json) : Except ImportError Node := do
  let entry ← Entry.ofMembers (.node index) members
  let labels ← readField (.node index) "labels" readLabels members
  return { toEntry := entry, labels }

/-- The relationship that an object stands for. -/
def Relationship.ofMembers (index : Nat) (members : Entries Json) :
    Except ImportError Relationship := do
  let ref := EntryRef.relationship index
  let source ← readField ref "start" readIndex members
  let target ← readField ref "end" readIndex members
  let type ← readField ref "type" readType members
  let entry ← Entry.ofMembers ref members
  return { toEntry := entry, source, target, type }

namespace Document

/-- The document of an outline. -/
def ofOutline (outline : Outline) : Except ImportError Document := do
  let nodes ← outline.nodes.zipIdx.mapM fun (members, index) => Node.ofMembers index members
  let relationships ← outline.relationships.zipIdx.mapM fun (members, index) =>
    Relationship.ofMembers index members
  return { nodes, relationships }

/-- The document of a text. -/
def ofText (text : String) : Except ImportError Document :=
  match Outline.ofText text with
  | .ok outline => ofOutline outline
  | .error error => .error (.badJson error)

/-- The document of a JSON value. -/
def ofJson (json : Json) : Except ImportError Document :=
  match Outline.ofJson json with
  | .ok outline => ofOutline outline
  | .error error => .error (.badJson error)

end Document

end GraphImport
