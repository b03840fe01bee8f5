import GraphImport.Json.Decoder
import GraphImport.Json.Printer

/-!
# Settings of a delivery

* `Delivery.Settings` — where a script is sent and how the answer is taken.
* `Delivery.Settings.transactionUrl` — the address of the commit.
* `Delivery.Settings.toJson`, `Delivery.Settings.ofText` — settings as JSON.
-/

namespace GraphImport.Delivery

/-- The address of a server on this machine. -/
def defaultUri : String := "http://localhost:7474/db/data/"

/-- How long an answer may take, in seconds. -/
def defaultTimeout : Nat := 60

/-- Settings of a delivery. -/
structure Settings where
  /-- The address under which the server takes transactions. -/
  baseUri : String
  /-- How long an answer may take, in seconds. -/
  timeoutSeconds : Nat
  /-- Statement errors that the server reports make the delivery fail. -/
  strict : Bool
deriving DecidableEq

namespace Settings

/-- The server on this machine, one minute, and statement errors are only reported. -/
def default : Settings := ⟨defaultUri, defaultTimeout, false⟩

instance : Inhabited Settings := ⟨default⟩

/-- The address of the commit; the slash at the end of the base address may be left out. -/
def transactionUrl (s : Settings) : String :=
  (if s.baseUri.toList.getLast? = some '/' then s.baseUri else s.baseUri ++ "/")
    ++ "transaction/commit"

/-! ## As JSON -/

/-- Settings as JSON. -/
def toJson (s : Settings) : Json :=
  .object [
    ("base_uri", .string s.baseUri),
    ("timeout_secs", .number (.integer s.timeoutSeconds)),
    ("fail_on_server_errors", .bool s.strict)]

/-- The settings that have been read so far. -/
structure Partial where
  /-- The address. -/
  baseUri : Option String
  /-- The time for an answer. -/
  timeoutSeconds : Option Nat
  /-- How statement errors are taken. -/
  strict : Option Bool

/-- The fields of the settings, all of which have to be there. -/
def record : Json.Record Partial Settings where
  name := "DeliveryConfig"
  fields := [
    .ofDecoder "base_uri" false Partial.baseUri
      (fun state uri => { state with baseUri := some uri }) .text,
    .ofDecoder "timeout_secs" false Partial.timeoutSeconds
      (fun state seconds => { state with timeoutSeconds := some seconds }) (.natural "u64"),
    .ofDecoder "fail_on_server_errors" false Partial.strict
      (fun state fail => { state with strict := some fail }) .flag]
  start := ⟨none, none, none⟩
  finish := fun state => do
    let baseUri ← Json.Record.required "base_uri" state.baseUri
    let timeoutSeconds ← Json.Record.required "timeout_secs" state.timeoutSeconds
    let strict ← Json.Record.required "fail_on_server_errors" state.strict
    return { baseUri, timeoutSeconds, strict }

/-- The settings that a JSON text stands for. -/
def ofText (text : String) : Except Json.ReadError Settings := Json.decode record.decoder text

end Settings

end GraphImport.Delivery
