import GraphImport.Compile.Basic
import GraphImport.Delivery.Exchange
import GraphImport.Delivery.Settings
import GraphImport.Event

/-!
# Delivering scripts

A script is sent as one statement in one request. The outcome depends on the answer and on one
setting only.

* `Delivery.Outcome` — what was sent, what came of it and what was reported.
* `Delivery.sendStatement` — delivers a statement.
* `Delivery.send` — delivers a script.
-/

namespace GraphImport.Delivery

/-- A delivery that has taken place. -/
structure Outcome where
  /-- The request, if one was sent. -/
  request : Option Request
  /-- What came of it. -/
  result : Except ImportError Report
  /-- What was reported meanwhile, in order. -/
  events : List Event

/-! ## Events -/

/-- Reported before anything is sent. -/
def startEvent (url statement : String) : Event :=
  .of .info "committing transaction" [("url", url), ("bytes", toString statement.utf8ByteSize)]

/-- Reported when a response has been read. -/
def responseEvent (r : Response) : Event :=
  .of .debug "transaction committed" [
    ("results", toString r.results.length), ("errors", toString r.errors.length)]

/-- Reported for every statement error. -/
def warningEvent (error : ServerError) : Event :=
  .of .warn "server reported statement error" [("code", error.code), ("message", error.message)]

/-! ## Outcomes -/

/-- The lowest status that is an error. -/
def errorStatus : Nat := 400

/-- The response in the body of an answer. -/
def readBody : Option String → Except AnswerFault Response
  | none => .error .lostBody
  | some text => (Response.ofText text).mapError .unreadableBody

/-- What an answer comes to, and what is reported about it. The status of an error is told even if
its body cannot be read. -/
def settle (strict : Bool) : Answer → Except ImportError Report × List Event
  | .unreachable => (.error (.noAnswer .unreachable), [])
  | .http status body =>
    if errorStatus ≤ status then (.error (.badStatus status (body.getD "")), [])
    else
      match readBody body with
      | .error fault => (.error (.noAnswer fault), [])
      | .ok response =>
        (response.report strict, responseEvent response :: response.errors.map warningEvent)

/-- Delivers a statement to a server that gives the answer. Without a connection nothing is
sent. -/
def sendStatement (settings : Settings) (statement : String) (answer : Answer) : Outcome :=
  let start := startEvent settings.transactionUrl statement
  match Address.ofText? settings.transactionUrl with
  | none => ⟨none, .error (.noAnswer .unusableAddress), [start]⟩
  | some address =>
    let request :=
      if answer = .unreachable then none
      else some ⟨address, (transactionJson statement).compact⟩
    let (result, events) := settle settings.strict answer
    ⟨request, result, start :: events⟩

/-- Delivers a script, as one statement. -/
def send (settings : Settings) (script : Script) (answer : Answer) : Outcome :=
  sendStatement settings script.combined answer

end GraphImport.Delivery
