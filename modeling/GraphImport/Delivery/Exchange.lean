import GraphImport.Delivery.Address
import GraphImport.Error
import GraphImport.Json.Decoder
import GraphImport.Json.Printer

/-!
# Requests and answers

What is sent to the server and what comes back.

* `Delivery.transactionJson` — the statement of a transaction as JSON.
* `Delivery.Request` — a request with its target and body.
* `Delivery.Answer` — what the network gives back.
* `Delivery.Response` — the JSON body of an answer, with `Delivery.Response.ofText`.
* `Delivery.Report` — what remains of a response that is accepted.
-/

namespace GraphImport

/-- The server errors that have been read so far. -/
def ServerError.record : Json.Record (Option String × Option String) ServerError where
  name := "ServerError"
  fields := [
    .ofDecoder "code" true Prod.fst (fun state value => (some value, state.2)) .text,
    .ofDecoder "message" true Prod.snd (fun state value => (state.1, some value)) .text]
  start := (none, none)
  finish := fun state => .ok ⟨state.1.getD "", state.2.getD ""⟩

namespace Delivery

/-! ## Requests -/

/-- A transaction of one statement, as JSON. -/
def transactionJson (statement : String) : Json :=
  .object [("statements", .array [.object [("statement", .string statement)]])]

/-- A request to the server. -/
structure Request where
  /-- Where it is sent. -/
  address : Address
  /-- What is sent. -/
  body : String
deriving DecidableEq

namespace Request

/-- The first line of a request. -/
def line (r : Request) : String := "POST " ++ r.address.target ++ " HTTP/1.1"

/-- What the answer may be. -/
def accept : String := "application/json; charset=utf-8"

/-- What the body is. -/
def contentType : String := "application/json"

end Request

/-! ## Answers -/

/-- What the network gives back. -/
inductive Answer where
  /-- There is no connection. -/
  | unreachable
  /-- The server answers with a status and a body; without one if it cannot be read to its end. -/
  | http (status : Nat) (body : Option String)
deriving DecidableEq

/-- The JSON body of an answer. -/
structure Response where
  /-- The results, as they are. -/
  results : List Json
  /-- The statement errors, in order. -/
  errors : List ServerError

namespace Response

/-- The fields of a response; both may be left out. -/
def record : Json.Record (Option (List Json) × Option (List ServerError)) Response where
  name := "TransactionResponse"
  fields := [
    .ofDecoder "results" true Prod.fst (fun state value => (some value, state.2)) (.list .any),
    .ofDecoder "errors" true Prod.snd (fun state value => (state.1, some value))
      (.list ServerError.record.decoder)]
  start := (none, none)
  finish := fun state => .ok ⟨state.1.getD [], state.2.getD []⟩

/-- The response that a JSON text stands for. -/
def ofText (text : String) : Except Json.ReadError Response := Json.decode record.decoder text

end Response

/-- What is told about a delivery that did not fail. -/
structure Report where
  /-- The results, as they are. -/
  results : List Json
  /-- The statement errors, in order. -/
  errors : List ServerError

/-- The server reported no statement error. -/
def Report.isClean (r : Report) : Bool := r.errors.isEmpty

/-- What a response comes to. -/
def Response.report (r : Response) (strict : Bool) : Except ImportError Report :=
  if strict && !r.errors.isEmpty then .error (.refused r.errors)
  else .ok ⟨r.results, r.errors⟩

end Delivery

end GraphImport
