import GraphImport.Proofs.CommandLine.Commands
import GraphImport.Proofs.Json.Viewing

/-!
# What comes of a delivery

What is sent depends on the script and the settings only, and what comes of it on the status, the
body and one setting. Every listed error is told as a warning, whether the delivery fails or not.

* `Delivery.Response.view`, `Delivery.Response.toOption_ofText` — what the JSON body of an answer
  says.
* `Delivery.Answer.response?`, `Delivery.settle_of_response`, `Delivery.warnings_settle` — answers
  with a response, and what is told about it.
* `Delivery.Verdict`, `Delivery.settle_verdict` — what comes of an answer, whether its body can be read
  or not.
* `Delivery.errors_of_report`, `Delivery.refused_of_listedErrors` — listed errors are in the report,
  or make the delivery fail.
* `Delivery.send_eq`, `Delivery.delivery_decided` — request, result, warnings and errors of all
  deliveries.
-/

namespace GraphImport

open Json.Decoder (listView)
open Json.Record (pairView)

/-! ## Bodies -/

/-- The statement error that an unmerged value says; its code and its message may be left out. -/
def ServerError.view (raw : Json) : Option ServerError :=
  (pairView "code" Json.string? "message" Json.string? raw).map fun found =>
    ⟨found.1.getD "", found.2.getD ""⟩

theorem ServerError.decoder_sees : ServerError.record.decoder.Sees ServerError.view :=
  Json.Record.pair_sees Json.Decoder.text_sees Json.Decoder.text_sees (by decide) rfl rfl rfl

namespace Delivery

/-- **The response that an unmerged value says**: all its results and all its errors in order. Other
members do not count. -/
def Response.view (raw : Json) : Option Response :=
  (pairView "results" (listView fun item => some item.merged) "errors" (listView ServerError.view)
      raw).map fun found =>
    ⟨found.1.getD [], found.2.getD []⟩

/-- What is read of a JSON body is what its value says. -/
theorem Response.toOption_ofText {text : String} {raw : Json}
    (hread : Json.parseUnmerged text = .ok raw) : (ofText text).toOption = view raw := by
  have hresults := Json.Decoder.list_sees Json.Decoder.any_sees
  have herrors := Json.Decoder.list_sees ServerError.decoder_sees
  have hrecord : record.decoder.Sees view :=
    Json.Record.pair_sees hresults herrors (by decide) rfl rfl rfl
  exact hrecord.decode hread

/-! ## Answers -/

/-- There is no connection, or the status is a plain success or an error. -/
inductive Answer.IsDecided : Answer → Prop where
  /-- There is no connection. -/
  | unreachable : IsDecided .unreachable
  /-- A plain success. -/
  | success {status : Nat} (h : 200 ≤ status ∧ status ≤ 203) (body : Option String) :
    IsDecided (.http status body)
  /-- An error. -/
  | failure {status : Nat} (h : 400 ≤ status) (body : Option String) :
    IsDecided (.http status body)

/-- The response in an answer, if its status is no error and its body is one. -/
def Answer.response? : Answer → Option Response
  | .unreachable => none
  | .http status body =>
    if errorStatus ≤ status then none
    else body.bind fun text => (Response.ofText text).toOption

/-- The statement errors that an answer lists. -/
def Answer.listedErrors (answer : Answer) : List ServerError :=
  (answer.response?.map Response.errors).getD []

/-- **What comes of an answer.** -/
inductive Verdict (strict : Bool) : Answer → Except ImportError Report → Prop where
  /-- There is no connection. -/
  | unreachable : Verdict strict .unreachable (.error (.noAnswer .unreachable))
  /-- The body of a success is no response. -/
  | unreadable {status : Nat} {body : String} {error : Json.ReadError}
    (hstatus : 200 ≤ status ∧ status ≤ 203) (hbody : Response.ofText body = .error error) :
    Verdict strict (.http status body) (.error (.noAnswer (.unreadableBody error)))
  /-- The body of a success cannot be read to its end. -/
  | lost {status : Nat} (hstatus : 200 ≤ status ∧ status ≤ 203) :
    Verdict strict (.http status none) (.error (.noAnswer .lostBody))
  /-- The status is an error. -/
  | badStatus {status : Nat} {body : String} (hstatus : 400 ≤ status) :
    Verdict strict (.http status body) (.error (.badStatus status body))
  /-- The status is an error, and its body cannot be read to its end: an empty one is told. -/
  | lostStatus {status : Nat} (hstatus : 400 ≤ status) :
    Verdict strict (.http status none) (.error (.badStatus status ""))
  /-- The body lists errors, and they count. -/
  | refused {status : Nat} {body : String} {response : Response}
    (hstatus : 200 ≤ status ∧ status ≤ 203) (hbody : Response.ofText body = .ok response)
    (hstrict : strict = true) (herrors : response.errors ≠ []) :
    Verdict strict (.http status body) (.error (.refused response.errors))
  /-- The body lists no errors, or they do not count. -/
  | report {status : Nat} {body : String} {response : Response}
    (hstatus : 200 ≤ status ∧ status ≤ 203) (hbody : Response.ofText body = .ok response)
    (haccepted : strict = false ∨ response.errors = []) :
    Verdict strict (.http status body) (.ok ⟨response.results, response.errors⟩)

/-- A response is refused if it lists errors and they count. -/
theorem Response.report_of_refused {r : Response} (h : r.errors ≠ []) :
    r.report true = .error (.refused r.errors) := by
  unfold report
  have hnonempty : r.errors.isEmpty = false := by simpa using h
  simp [hnonempty]

/-- Otherwise it is accepted as it is. -/
theorem Response.report_of_accepted {r : Response} {strict : Bool}
    (h : strict = false ∨ r.errors = []) : r.report strict = .ok ⟨r.results, r.errors⟩ := by
  unfold report
  rcases h with rfl | h
  · rfl
  · simp [h]

/-- The verdict on a response is its report, or that it is refused. -/
theorem Response.verdict_report {status : Nat} {body : String} {response : Response}
    (hstatus : 200 ≤ status ∧ status ≤ 203) (hbody : ofText body = .ok response) (strict : Bool) :
    Verdict strict (.http status body) (response.report strict) := by
  by_cases haccepted : strict = false ∨ response.errors = []
  · rw [report_of_accepted haccepted]
    exact .report hstatus hbody haccepted
  · rw [not_or, Bool.not_eq_false] at haccepted
    obtain ⟨rfl, herrors⟩ := haccepted
    rw [report_of_refused herrors]
    exact .refused hstatus hbody rfl herrors

/-- A body that is a response is read. -/
theorem readBody_of_ok {text : String} {response : Response}
    (h : Response.ofText text = .ok response) : readBody (some text) = .ok response := by
  unfold readBody
  dsimp only
  rw [h]
  rfl

/-- A body that is no response is not read. -/
theorem readBody_of_error {text : String} {error : Json.ReadError}
    (h : Response.ofText text = .error error) :
    readBody (some text) = .error (.unreadableBody error) := by
  unfold readBody
  dsimp only
  rw [h]
  rfl

section

variable {strict : Bool} {answer : Answer} {response : Response}

/-- An answer with a response is taken by its response, and every listed error is told. -/
theorem settle_of_response (h : answer.response? = some response) :
    settle strict answer =
      (response.report strict, responseEvent response :: response.errors.map warningEvent) := by
  cases answer with
  | unreachable => exact nomatch h
  | http status body =>
      unfold Answer.response? at h
      unfold settle
      dsimp only at h ⊢
      split_ifs at h ⊢ with hstatus
      obtain ⟨text, rfl, htext⟩ := Option.bind_eq_some_iff.mp h
      rw [readBody_of_ok (toOption_eq_some.mp htext)]

/-- Without a response the delivery fails, and there is nothing to be told. -/
theorem settle_of_no_response (strict : Bool) (h : answer.response? = none) :
    ∃ error, settle strict answer = (.error error, []) := by
  cases answer with
  | unreachable => exact ⟨_, rfl⟩
  | http status body =>
      unfold Answer.response? at h
      unfold settle
      dsimp only at h ⊢
      split_ifs at h ⊢ with hstatus
      · exact ⟨_, rfl⟩
      · cases body with
        | none => exact ⟨_, rfl⟩
        | some text =>
            cases hbody : Response.ofText text with
            | error error =>
                rw [readBody_of_error hbody]
                exact ⟨_, rfl⟩
            | ok response =>
                rw [Option.bind_some, hbody] at h
                exact nomatch h

/-- Every listed error is told as a warning. -/
theorem warnings_settle (strict : Bool) (answer : Answer) :
    (settle strict answer).2.filter (fun event => event.level = .warn) =
      answer.listedErrors.map warningEvent := by
  unfold Answer.listedErrors
  cases hresponse : answer.response? with
  | none =>
      obtain ⟨error, hsettle⟩ := settle_of_no_response strict hresponse
      rw [hsettle]
      rfl
  | some response =>
      have hwarnings : ∀ event ∈ response.errors.map warningEvent,
          decide (event.level = .warn) = true := by
        intro event hevent
        obtain ⟨error, -, rfl⟩ := List.mem_map.mp hevent
        rfl
      rw [settle_of_response hresponse, List.filter_cons_of_neg (by simp [responseEvent, Event.of]),
        List.filter_eq_self.mpr hwarnings]
      rfl

/-- **There is a verdict on every answer.** -/
theorem settle_verdict (strict : Bool) (h : answer.IsDecided) :
    Verdict strict answer (settle strict answer).1 := by
  cases h with
  | unreachable => exact .unreachable
  | @failure status hstatus body =>
      unfold settle
      dsimp only
      rw [if_pos (show errorStatus ≤ status from hstatus)]
      cases body with
      | none => exact .lostStatus hstatus
      | some text => exact .badStatus hstatus
  | @success status hstatus body =>
      have hnoError : ¬errorStatus ≤ status := by
        unfold errorStatus
        omega
      unfold settle
      dsimp only
      rw [if_neg hnoError]
      cases body with
      | none => exact .lost hstatus
      | some text =>
          cases hbody : Response.ofText text with
          | error error =>
              rw [readBody_of_error hbody]
              exact .unreadable hstatus hbody
          | ok response =>
              rw [readBody_of_ok hbody]
              exact Response.verdict_report hstatus hbody strict

/-- Whatever fails blames the delivery, and not the document. -/
theorem Verdict.blames {error : ImportError} (h : Verdict strict answer (.error error)) :
    error.blamesDelivery = true ∧ error.blamesDocument = false := by
  cases h
  all_goals exact ⟨rfl, rfl⟩

end

/-! ## Deliveries -/

/-- A slash at the end of the base address may be left out. -/
theorem Settings.transactionUrl_slash (settings : Settings) {base : String}
    (h : base.toList.getLast? ≠ some '/') :
    transactionUrl { settings with baseUri := base ++ "/" } =
      transactionUrl { settings with baseUri := base } := by
  unfold transactionUrl
  have hslash : (base ++ "/").toList.getLast? = some '/' := by simp
  dsimp only
  rw [if_pos hslash, if_neg h]

/-- **What a delivery comes to**: the request is made of the script and the address. -/
theorem send_eq {settings : Settings} {address : Address}
    (haddress : Address.ofText? settings.transactionUrl = some address) (script : Script)
    (answer : Answer) :
    send settings script answer = {
      request := if answer = .unreachable then none
        else some ⟨address, (transactionJson script.combined).compact⟩
      result := (settle settings.strict answer).1
      events := startEvent settings.transactionUrl script.combined ::
        (settle settings.strict answer).2 } := by
  unfold send sendStatement
  rw [haddress]

/-- **A delivery is decided by status, body and setting, and its request by the script alone.** The
request goes to the address of the commit, and its body is a transaction with the joined script as
its only statement. It is sent unless there is no connection, whatever else the answer is and however
listed errors are taken. All listed errors are told as warnings, in order, and every error blames
the delivery. The JSON value of a body says what the response is. -/
theorem delivery_decided (script : Script) (settings : Settings) {address : Address}
    (haddress : Address.ofText? settings.transactionUrl = some address) :
    (∃ request : Request, request.address = address ∧
        Json.parse request.body = .ok (.object [("statements",
          .array [.object [("statement", .string script.combined)]])]) ∧
        ∀ strict answer, answer.IsDecided →
          let outcome := send { settings with strict := strict } script answer
          outcome.request = (if answer = .unreachable then none else some request) ∧
            Verdict strict answer outcome.result ∧
            outcome.events.filter (fun event => event.level = .warn) =
              answer.listedErrors.map warningEvent ∧
            ∀ error, outcome.result = .error error →
              error.blamesDelivery = true ∧ error.blamesDocument = false) ∧
      (∀ base, base.toList.getLast? ≠ some '/' →
        Settings.transactionUrl { settings with baseUri := base ++ "/" } =
          Settings.transactionUrl { settings with baseUri := base }) ∧
      ∀ body raw, Json.parseUnmerged body = .ok raw →
        (Response.ofText body).toOption = Response.view raw := by
  refine ⟨⟨⟨address, (transactionJson script.combined).compact⟩, rfl,
    Json.parse_compact (isPlain_transactionJson script.combined), ?_⟩,
    fun base => settings.transactionUrl_slash, fun body raw => Response.toOption_ofText⟩
  intro strict answer hdecided
  have hverdict := settle_verdict strict hdecided
  dsimp only
  rw [@send_eq { settings with strict := strict } address haddress]
  refine ⟨rfl, hverdict, ?_, fun error herror => ?_⟩
  · rw [List.filter_cons_of_neg (by simp [startEvent, Event.of])]
    exact warnings_settle strict answer
  · rw [show (settle strict answer).1 = .error error from herror] at hverdict
    exact hverdict.blames

/-- The body of an answer that lists an error. -/
def failedBody : String :=
  "\x7b\"errors\":[\x7b\"message\":\"m\",\"code\":\"C\"\x7d],\"results\":[]\x7d"

/-- The listed error counts or not, and the request is the same. -/
theorem delivery_decided_failed :
    let script : Script := ⟨[⟨"CREATE (x0)", .createNode⟩]⟩
    let answer : Answer := .http 200 failedBody
    ∃ request, (send ⟨defaultUri, 60, true⟩ script answer).request = some request ∧
      (send ⟨defaultUri, 60, false⟩ script answer).request = some request ∧
      (send ⟨defaultUri, 60, true⟩ script answer).result = .error (.refused [⟨"C", "m"⟩]) := by
  intro script answer
  have haddress : (Address.ofText? (Settings.transactionUrl .default)).isSome = true := by
    decide +kernel
  have herrors : (Response.ofText failedBody).map Response.errors = .ok [⟨"C", "m"⟩] := by
    decide +kernel
  have hdecided : answer.IsDecided := .success (by decide) failedBody
  obtain ⟨address, haddress⟩ := Option.isSome_iff_exists.mp haddress
  obtain ⟨response, hresponse, herrors⟩ := map_eq_ok.mp herrors
  obtain ⟨⟨request, -, -, hcases⟩, -⟩ := delivery_decided script .default haddress
  obtain ⟨hrequest, hverdict, -⟩ := hcases true answer hdecided
  refine ⟨request, hrequest, (hcases false answer hdecided).1, ?_⟩
  change Verdict true (.http 200 failedBody) (send ⟨defaultUri, 60, true⟩ script answer).result
    at hverdict
  generalize (send ⟨defaultUri, 60, true⟩ script answer).result = result at hverdict ⊢
  cases hverdict with
  | unreadable _ hbody => exact nomatch hbody.symm.trans hresponse
  | badStatus hstatus => exact absurd hstatus (by decide)
  | refused _ hbody =>
      cases hbody.symm.trans hresponse
      rw [herrors]
  | report _ hbody haccepted =>
      cases hbody.symm.trans hresponse
      rw [herrors] at haccepted
      exact absurd haccepted (by decide)

end Delivery

end GraphImport
