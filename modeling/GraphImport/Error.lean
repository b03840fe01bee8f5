import GraphImport.Json.Fault
import GraphImport.Property.Properties

/-!
# Errors of an import

Everything that can go wrong between the text of a document and the answer of the server, by cause;
the wording of each cause is `ImportError.message`.

* `EntryRef`, `Endpoint` — what an error is about.
* `FieldProblem` — why a field of an entry cannot be read.
* `ServerError` — a statement error that the server reports.
* `ImportError` — all errors, with `blamesDocument` and `blamesDelivery`.
-/

namespace GraphImport

/-! ## What errors are about -/

/-- An entry of a document, by its position among the nodes or among the relationships. -/
inductive EntryRef where
  /-- A node. -/
  | node (index : Nat)
  /-- A relationship. -/
  | relationship (index : Nat)
deriving DecidableEq

/-- How messages name an entry. -/
def EntryRef.text : EntryRef → String
  | node index => "node #" ++ toString index
  | relationship index => "relationship #" ++ toString index

/-- One of the two ends of a relationship. -/
inductive Endpoint where
  /-- Where it starts. -/
  | source
  /-- Where it ends. -/
  | target
deriving DecidableEq

/-- How messages name an end. -/
def Endpoint.text : Endpoint → String
  | source => "start"
  | target => "end"

/-! ## Causes -/

/-- Why a field of an entry cannot be read. -/
inductive FieldProblem where
  /-- Properties are given by something else than an object. -/
  | notObject
  /-- A property has no possible value. -/
  | property (problem : PropertyProblem)
  /-- A list of keys holds something else than strings. -/
  | keyNotString
  /-- The field does not say by what to match. -/
  | notMatchRule
  /-- The field does not say what to update. -/
  | notUpdateRule
  /-- The field is not a truth value. -/
  | notFlag
  /-- The labels are not given by a list. -/
  | notLabelList
  /-- A label is not a string. -/
  | labelNotString
  /-- An end of a relationship is missing. -/
  | missingIndex
  /-- An end of a relationship is not an integer. -/
  | notIndex
  /-- The type of a relationship is not a string. -/
  | typeNotString
  /-- A problem that the caller puts into words. -/
  | described (text : String)
deriving DecidableEq

/-- The wording of a problem. -/
def FieldProblem.message : FieldProblem → String
  | notObject => "expected an object"
  | property problem => problem.message
  | keyNotString => "key lists may only contain strings"
  | notMatchRule => "match must be null, false, a list, or an object"
  | notUpdateRule => "update must be null, a list, or an object"
  | notFlag => "replace must be a boolean"
  | notLabelList => "expected a list of strings"
  | labelNotString => "labels must be strings"
  | missingIndex => "node index is required"
  | notIndex => "node index must be an integer"
  | typeNotString => "relationship type must be a string"
  | described text => text

/-- A statement error that the server reports. -/
structure ServerError where
  /-- The code. -/
  code : String
  /-- The message. -/
  message : String
deriving DecidableEq

/-- A server error on one line. -/
def ServerError.text (error : ServerError) : String := error.code ++ ": " ++ error.message

/-- Why no answer came from the server, or none that could be read. -/
inductive AnswerFault where
  /-- The address is not one that can be sent to. -/
  | unusableAddress
  /-- There is no connection. -/
  | unreachable
  /-- The body of the answer is not what it should be. -/
  | unreadableBody (error : Json.ReadError)
  /-- The body of the answer cannot be read to its end. -/
  | lostBody
  /-- A fault that the caller puts into words. -/
  | described (text : String)
deriving DecidableEq

/-- The wording of a fault. -/
def AnswerFault.message : AnswerFault → String
  | unusableAddress => "unusable address"
  | unreachable => "no connection"
  | unreadableBody error => "unreadable response body: " ++ error.message
  | lostBody => "unreadable response body"
  | described text => text

/-- What can go wrong with an import. -/
inductive ImportError where
  /-- A field of an entry cannot be read. -/
  | badField (entry : EntryRef) (field : String) (problem : FieldProblem)
  /-- A rule of an entry names a key that its properties lack. -/
  | unknownKey (entry : EntryRef) (key : String)
  /-- An end of a relationship is no node of the document. -/
  | noSuchNode (entry : EntryRef) (endpoint : Endpoint) (index : Int) (nodeCount : Nat)
  /-- A relationship has no type. -/
  | noType (entry : EntryRef)
  /-- There are more nodes than allowed. -/
  | tooManyNodes (count limit : Nat)
  /-- There are more relationships than allowed. -/
  | tooManyRelationships (count limit : Nat)
  /-- No readable answer came from the server. -/
  | noAnswer (fault : AnswerFault)
  /-- The server answered with an error status. -/
  | badStatus (status : Nat) (body : String)
  /-- The server reported statement errors. -/
  | refused (errors : List ServerError)
  /-- A JSON text cannot be read. -/
  | badJson (error : Json.ReadError)
deriving DecidableEq

namespace ImportError

/-- The wording of an error. -/
def message : ImportError → String
  | badField entry field problem =>
    entry.text ++ ": invalid '" ++ field ++ "': " ++ problem.message
  | unknownKey entry key =>
    entry.text ++ ": \"" ++ key ++ "\" does not exist in properties"
  | noSuchNode entry endpoint index nodeCount =>
    entry.text ++ ": " ++ endpoint.text ++ " node index " ++ toString index
      ++ " not in bounds (document has " ++ toString nodeCount ++ " nodes)"
  | noType entry => entry.text ++ ": relationships must have a non-empty type"
  | tooManyNodes count limit =>
    "Node count " ++ toString count ++ " exceeds maximum allowed count " ++ toString limit
  | tooManyRelationships count limit =>
    "Relationship count " ++ toString count ++ " exceeds maximum allowed count " ++ toString limit
  | noAnswer fault => "transport error: " ++ fault.message
  | badStatus status body =>
    "transaction endpoint returned HTTP " ++ toString status ++ ": " ++ body
  | refused errors =>
    "server reported " ++ toString errors.length ++ " error(s): "
      ++ String.intercalate "; " (errors.map ServerError.text)
  | badJson error => "JSON error: " ++ error.message

/-- The document itself is at fault. -/
def blamesDocument : ImportError → Bool
  | badField .. | noSuchNode .. | noType _ | tooManyNodes .. | tooManyRelationships .. => true
  | unknownKey .. | noAnswer _ | badStatus .. | refused _ | badJson _ => false

/-- The delivery is at fault. -/
def blamesDelivery : ImportError → Bool
  | noAnswer _ | badStatus .. | refused _ => true
  | badField .. | unknownKey .. | noSuchNode .. | noType _ | tooManyNodes ..
  | tooManyRelationships .. | badJson _ => false

end ImportError

end GraphImport
