import GraphImport.Property.Properties

/-!
# Import documents

What a document lists: nodes, and relationships between them. Nodes and relationships share what
decides about their statement.

* `MatchRule` — by what an entry is found in the database.
* `UpdateRule` — what is written when it is found.
* `Entry`, `Node`, `Relationship`, `Document`.
-/

namespace GraphImport

/-- By what an entry is found in the database. -/
inductive MatchRule where
  /-- By all its properties. -/
  | onProps
  /-- By nothing: it is always created. -/
  | create
  /-- By the properties of some keys. -/
  | onKeys (keys : List String)
  /-- By other properties than its own. -/
  | onMap (map : Properties)

instance : Inhabited MatchRule := ⟨.onProps⟩

/-- The entry is created without looking for it. -/
def MatchRule.isCreate : MatchRule → Bool
  | create => true
  | _ => false

/-- What is written when an entry is found. -/
inductive UpdateRule where
  /-- All its properties. -/
  | allProps
  /-- The properties of some keys. -/
  | onKeys (keys : List String)
  /-- Other properties than its own. -/
  | onMap (map : Properties)

instance : Inhabited UpdateRule := ⟨.allProps⟩

/-- What nodes and relationships have in common. -/
structure Entry where
  /-- The properties that a new entity gets. -/
  props : Properties
  /-- By what the entry is found. -/
  matching : MatchRule
  /-- What is written when it is found. -/
  updating : UpdateRule
  /-- An update by a map takes the place of all properties. -/
  replace : Bool
deriving Inhabited

/-- A node. -/
structure Node extends Entry where
  /-- The labels, in order. -/
  labels : List String
deriving Inhabited

/-- A relationship; its ends are positions of nodes in the document. -/
structure Relationship extends Entry where
  /-- The node at which it starts. -/
  source : Int
  /-- The node at which it ends. -/
  target : Int
  /-- The type. -/
  type : String
deriving Inhabited

/-- Nodes, and relationships between them. -/
structure Document where
  /-- The nodes, in order. -/
  nodes : List Node
  /-- The relationships, in order. -/
  relationships : List Relationship
deriving Inhabited

end GraphImport
