/-
Runs of actions from end to end, with any client and any sink. A run fails in one
of six ways, and then there is one report of it; or it does not, and then there are
reports of what came out. What the sink does with reports changes none of them.

* `Sink.recorded`: a sink beside which its reports are kept;
* `Action.LeadsTo`, `Action.Sends`: the URL and the request of an action;
* `Action.Fails`: the ways in which a run fails;
* `Action.Reports`: the reports of a run;
* `dispatch_outcome`: requests, reports and failures of a run.
-/
import LivePage.Dispatch
import LivePage.Proofs.Responses

namespace LivePage

/-! ### Sinks -/

section

variable {σ : Type} (sink : Sink σ)

/-- A sink that keeps all reports that it is offered beside its state. -/
def Sink.recorded : Sink (σ × List Report) where
  offer state report :=
    let (next, accepted) := sink.offer state.1 report
    ((next, state.2 ++ [report]), accepted)

lemma Sink.deliver_recorded (state : σ) (offered reports : List Report) :
    sink.recorded.deliver (state, offered) reports =
      (sink.deliver state reports, offered ++ reports) := by
  induction reports generalizing state offered with
  | nil => simp [deliver]
  | cons report rest ih =>
      change sink.recorded.deliver ((sink.offer state report).1, offered ++ [report]) rest = _
      rw [ih, List.append_assoc]
      rfl

end

/-! ### Messages of failures -/

lemma append_ne_empty {s t : String} (hs : s ≠ "") : s ++ t ≠ "" := by
  simp [hs]

lemma Json.hugeIntegerText_ne_empty (digits : ℕ) : hugeIntegerText digits ≠ "" := by
  repeat first | decide | refine append_ne_empty ?_

lemma Json.WriteError.message_ne_empty (e : WriteError) : e.message ≠ "" := by
  cases e
  repeat first | decide | refine append_ne_empty ?_

lemma StartError.message_ne_empty (e : StartError) : e.message ≠ "" := by
  cases e with
  | hugeIndex cause => exact Json.hugeIntegerText_ne_empty cause.digits
  | unknownEndpoint endpoint =>
      rw [message]
      split
      · exact append_ne_empty (by decide)
      · exact Json.WriteError.message_ne_empty _
  | misuse cause => cases cause <;> repeat first | decide | refine append_ne_empty ?_
  | unwritable cause => exact cause.message_ne_empty

lemma BodyError.message_ne_empty {e : BodyError} (he : e ≠ .charset .bytesOnly) :
    e.message ≠ "" := by
  rcases e with cause | cause | cause
  · cases cause <;> repeat first | decide | refine append_ne_empty ?_
  · cases cause with
    | hugeNumber digits => exact Json.hugeIntegerText_ne_empty digits
    | mixedPieces isNumbered => repeat first | decide | refine append_ne_empty ?_
    | nullCharacter => decide
  · cases cause with
    | bytesOnly => exact absurd rfl he
    | unmarked title =>
        intro hmessage
        exact absurd (String.append_eq_empty_iff.mp hmessage).2 (by decide)
    | _ => decide

lemma refusalMessage_ne_empty (status : ℕ) (v : Value) : refusalMessage status v ≠ "" := by
  generalize hmessage : refusalMessage status v = message
  have hrefusal := refusal_message status v
  rw [hmessage] at hrefusal
  cases hrefusal with
  | text hs => exact hs
  | value _ => exact Json.compact_ne_empty v
  | empty => exact append_ne_empty (by decide)

/-- What is reported of a failed request is never empty. -/
lemma RequestError.report_ne_empty {e : RequestError}
    (hname : ∀ cause, e = .transport cause → cause.name ≠ "") : e.report ≠ "" := by
  rw [report]
  split
  case isFalse hmessage => simpa using hmessage
  case isTrue hmessage =>
    have hmessage : e.message = "" := by simpa using hmessage
    rcases e with cause | cause | ⟨status, body⟩
    · exact hname cause rfl
    · by_cases hcause : cause = .charset .bytesOnly
      · subst hcause
        simp [name?]
      · exact absurd hmessage (BodyError.message_ne_empty hcause)
    · exact absurd hmessage (refusalMessage_ne_empty status body)

/-! ### Requests of actions -/

lemma Document.endpointUrl_null {d : Document} {url : String} : d.endpointUrl .null ≠ .ok url := by
  simp [endpointUrl, Value.isTruthy]

lemma Document.endpointUrl_str_eq_ok_iff {d : Document} {key url : String} :
    d.endpointUrl (.str key) = .ok url ↔
      key ≠ "" ∧ d.endpoints.get? key = some url ∧ url ≠ "" := by
  by_cases hkey : key = ""
  · simp [endpointUrl, Value.isTruthy, hkey]
  · rcases hget : d.endpoints.get? key with _ | found
    · simp [endpointUrl, Value.isTruthy, Value.key, Value.str?, hkey, hget]
    · by_cases hfound : found = ""
      · simp [endpointUrl, Value.isTruthy, Value.key, Value.str?, hkey, hget, hfound]
      · have hurl : found = url → url ≠ "" := by
          rintro rfl
          exact hfound
        simpa [endpointUrl, Value.isTruthy, Value.key, Value.str?, hkey, hget, hfound] using hurl

namespace Action

/-- The payload of an action. -/
def entries (a : Action) : Payload Value := Payload.widen (a.payload.value?.getD [])

/-- The endpoint that an action names has a URL in a document. -/
def LeadsTo (a : Action) (d : Document) (url : String) : Prop :=
  ∃ key, a.endpoint = .given key ∧ key ≠ "" ∧ d.endpoints.get? key = some url ∧ url ≠ ""

/-- The request of an action, given its URL and its payload. -/
def requestTo (a : Action) (d : Document) (url : String) (payload : Members Value) : Request where
  method := .str (Vocabulary.text (a.method.value?.getD defaultMethod))
  url := url
  headers := requestHeaders d.config.value? ((a.headers.value?.getD []).mapValues .str)
  payload := some (.obj payload)

/-- An action sends a request. -/
structure Sends (a : Action) (store : Store) (d : Document) (r : Request) : Prop where
  kind : a.kind = .apiCall
  exists_eq : ∃ payload url text, evaluate store a.entries = .ok payload ∧ a.LeadsTo d url ∧
    r = a.requestTo d url payload ∧ r.body = .ok text

/-- A run fails: its payload has no value, its endpoint has no URL, its body cannot be written, or
the reply to its request is none, has another status than a success, or carries nothing. -/
inductive Fails (a : Action) (store : Store) (d : Document) (client : Request → Reply) : Prop
  | payload {e : HugeIndex} (hpayload : evaluate store a.entries = .error e)
  | endpoint (hkind : a.kind = .apiCall) (hurl : ∀ url, ¬a.LeadsTo d url)
  | body {payload : Members Value} {url : String} {e : Json.WriteError}
      (hkind : a.kind = .apiCall) (hpayload : evaluate store a.entries = .ok payload)
      (hurl : a.LeadsTo d url) (hbody : (a.requestTo d url payload).body = .error e)
  | transport {r : Request} {cause : TransportFailure} (hsends : a.Sends store d r)
      (hreply : client r = .failure cause)
  | status {r : Request} {response : Response} (hsends : a.Sends store d r)
      (hreply : client r = .response response) (hstatus : ¬response.Succeeds)
  | decoding {r : Request} {response : Response} (hsends : a.Sends store d r)
      (hreply : client r = .response response) (hnothing : ∀ v, ¬response.Carries v)

/-- The report of data. -/
def dataReport (v : Value) : Report := ⟨.info, .obj [("ok", .bool true), ("data", v)]⟩

/-- The reports of a run, of which the request is given if it makes one: one failure; or the
payload, when it is to be logged; or the data that has come back, and behind it the message of
success if that is not empty. -/
inductive Reports (a : Action) (store : Store) (client : Request → Reply)
    (request : Option Request) : List Report → Prop
  | failure {message : String} (hmessage : message ≠ "") :
      Reports a store client request [⟨.error, .str message⟩]
  | payload {payload : Members Value} (hkind : a.kind = .log)
      (hpayload : evaluate store a.entries = .ok payload) :
      Reports a store client request [⟨.info, .obj payload⟩]
  | data {r : Request} {response : Response} {v : Value} (hrequest : request = some r)
      (hreply : client r = .response response) (hcarries : response.Carries v)
      (hmessage : ∀ text, a.successMessage = .given text → text = "") :
      Reports a store client request [dataReport v]
  | message {r : Request} {response : Response} {v : Value} {text : String}
      (hrequest : request = some r) (hreply : client r = .response response)
      (hcarries : response.Carries v) (hmessage : a.successMessage = .given text)
      (htext : text ≠ "") :
      Reports a store client request [dataReport v, ⟨.info, .str text⟩]

/-- What there is to say of a run: its request, and what it offers a sink. -/
structure Dispatched (a : Action) (store : Store) (d : Document) (client : Request → Reply)
    (request : Option Request) (offered : List Report) : Prop where
  sends_iff : ∀ r, request = some r ↔ a.Sends store d r
  log_silent : a.kind = .log → request = none
  leadsTo : ∀ r, request = some r → a.LeadsTo d r.url
  reports : a.Reports store client request offered
  error_iff : (∃ report ∈ offered, report.kind = .error) ↔ a.Fails store d client

variable {a : Action} {store : Store} {d : Document} {client : Request → Reply}
  {request : Option Request} {r : Request} {url : String}

lemma LeadsTo.unique {other : String} (hurl : a.LeadsTo d url) (hother : a.LeadsTo d other) :
    url = other := by
  obtain ⟨key, hkey, -, hget, -⟩ := hurl
  obtain ⟨key', hkey', -, hget', -⟩ := hother
  obtain rfl : key = key' := by simpa [hkey] using hkey'
  exact Option.some.inj (hget.symm.trans hget')

lemma Sends.unique {other : Request} (hsends : a.Sends store d r)
    (hother : a.Sends store d other) : r = other := by
  obtain ⟨-, payload, url, text, hpayload, hurl, rfl, -⟩ := hsends
  obtain ⟨-, payload', url', text', hpayload', hurl', rfl, -⟩ := hother
  obtain rfl : payload = payload' := Except.ok.inj (hpayload.symm.trans hpayload')
  rw [hurl.unique hurl']

lemma Sends.leadsTo (hsends : a.Sends store d r) : a.LeadsTo d r.url := by
  obtain ⟨-, payload, url, text, -, hurl, rfl, -⟩ := hsends
  exact hurl

lemma endpointUrl_eq_ok_iff : d.endpointUrl a.order.endpoint = .ok url ↔ a.LeadsTo d url := by
  rcases hendpoint : a.endpoint with _ | _ | key
  · simp [order, hendpoint, LeadsTo, Value.textOrNull, Field.value?, Document.endpointUrl_null]
  · simp [order, hendpoint, LeadsTo, Value.textOrNull, Field.value?, Document.endpointUrl_null]
  · simp [order, hendpoint, LeadsTo, Value.textOrNull, Field.value?,
      Document.endpointUrl_str_eq_ok_iff]

/-! ### Runs of actions -/

lemma order_evaluated (a : Action) (store : Store) :
    a.order.evaluated store = (evaluate store a.entries).mapError .hugeIndex :=
  rfl

/-- With a payload and a URL, a request depends on its body alone. -/
lemma request_eq {payload : Members Value} (hpayload : evaluate store a.entries = .ok payload)
    (hendpoint : d.endpointUrl a.order.endpoint = .ok url) :
    a.order.request store d =
      ((a.requestTo d url payload).body.mapError .unwritable).map
        fun _ => a.requestTo d url payload := by
  have hevaluated := a.order_evaluated store
  rw [hpayload, Except.mapError] at hevaluated
  simp only [Order.request, hevaluated, hendpoint]
  simp only [order, requestTo]
  split
  case h_1 hbody => rw [hbody]; rfl
  case h_2 hbody => rw [hbody]; rfl

/-- An action that calls sends its request, or fails before it has one. -/
lemma request_cases (hkind : a.kind = .apiCall) (store : Store) (d : Document) :
    (∃ r, a.order.request store d = .ok r ∧ a.Sends store d r) ∨
      ∃ e, a.order.request store d = .error e ∧ (∀ r, ¬a.Sends store d r) ∧
        ∀ client, a.Fails store d client := by
  have hevaluated := a.order_evaluated store
  rcases hpayload : evaluate store a.entries with e | payload <;>
    rw [hpayload, Except.mapError] at hevaluated
  · refine .inr ⟨.hugeIndex e, by rw [Order.request, hevaluated], ?_, fun _ => .payload hpayload⟩
    rintro r ⟨-, payload, url, text, hother, -⟩
    cases hpayload.symm.trans hother
  rcases hendpoint : d.endpointUrl a.order.endpoint with e | url
  · have hurl (url : String) : ¬a.LeadsTo d url := by
      rw [← endpointUrl_eq_ok_iff, hendpoint]
      exact nofun
    refine .inr ⟨e, by simp only [Order.request, hevaluated, hendpoint], ?_,
      fun _ => .endpoint hkind hurl⟩
    rintro r ⟨-, payload, url, text, -, hother, -⟩
    exact hurl url hother
  have hurl := endpointUrl_eq_ok_iff.mp hendpoint
  have hrequest := request_eq hpayload hendpoint
  rcases hbody : (a.requestTo d url payload).body with e | text <;> rw [hbody] at hrequest
  · refine .inr ⟨.unwritable e, hrequest, ?_, fun _ => .body hkind hpayload hurl hbody⟩
    rintro r ⟨-, payload', url', text, hpayload', hurl', rfl, hother⟩
    cases hpayload.symm.trans hpayload'
    rw [hurl.unique hurl', hother] at hbody
    cases hbody
  · exact .inl ⟨_, hrequest, hkind, payload, url, text, hpayload, hurl, rfl, hbody⟩

lemma Sends.fails_of_error (hsends : a.Sends store d r) {e : RequestError}
    (houtcome : outcomeOf (client r) = .error e) : a.Fails store d client := by
  rcases hreply : client r with response | cause
  · by_cases hstatus : response.Succeeds
    · refine .decoding hsends hreply fun v hcarries => ?_
      have hok := outcomeOf_eq_ok_iff.mpr ⟨response, hreply, hcarries, hstatus⟩
      cases houtcome.symm.trans hok
    · exact .status hsends hreply hstatus
  · exact .transport hsends hreply

/-- A reply that is a success with a value is no failure. -/
lemma Sends.not_fails (hsends : a.Sends store d r) {response : Response} {v : Value}
    (hreply : client r = .response response) (hcarries : response.Carries v)
    (hstatus : response.Succeeds) : ¬a.Fails store d client := by
  obtain ⟨-, payload, url, text, hpayload, hurl, heq, hbody⟩ := id hsends
  intro hfails
  cases hfails with
  | payload hother => cases hpayload.symm.trans hother
  | endpoint _ hnone => exact hnone url hurl
  | body _ hpayload' hurl' hother =>
      cases hpayload.symm.trans hpayload'
      rw [heq, hurl.unique hurl', hother] at hbody
      cases hbody
  | transport hsends' hother =>
      rw [← hsends.unique hsends', hreply] at hother
      cases hother
  | status hsends' hother hstatus' =>
      rw [← hsends.unique hsends', hreply] at hother
      cases hother
      exact hstatus' hstatus
  | decoding hsends' hother hnothing =>
      rw [← hsends.unique hsends', hreply] at hother
      cases hother
      exact hnothing v hcarries

lemma fails_iff_of_log (hkind : a.kind = .log) :
    a.Fails store d client ↔ ∃ e, evaluate store a.entries = .error e := by
  constructor
  · intro hfails
    cases hfails with
    | payload hpayload => exact ⟨_, hpayload⟩
    | endpoint hother | body hother => cases hkind.symm.trans hother
    | transport hsends | status hsends | decoding hsends => cases hkind.symm.trans hsends.kind
  · rintro ⟨e, hpayload⟩
    exact .payload hpayload

namespace Dispatched

variable {offered : List Report}

lemma of_sends_iff (hsends : ∀ r, request = some r ↔ a.Sends store d r)
    (hreports : a.Reports store client request offered)
    (herror : (∃ report ∈ offered, report.kind = .error) ↔ a.Fails store d client) :
    a.Dispatched store d client request offered where
  sends_iff := hsends
  log_silent hkind := by
    rcases hrequest : request with _ | r
    · rfl
    · cases hkind.symm.trans ((hsends r).mp hrequest).kind
  leadsTo r hrequest := ((hsends r).mp hrequest).leadsTo
  reports := hreports
  error_iff := herror

lemma of_fails (hsends : ∀ r, request = some r ↔ a.Sends store d r) {message : String}
    (hmessage : message ≠ "") (hfails : a.Fails store d client) :
    a.Dispatched store d client request (Order.failure message) :=
  .of_sends_iff hsends (.failure hmessage) (by simp [Order.failure, hfails])

end Dispatched

/-- The run of an action that logs. -/
lemma dispatched_of_log (hkind : a.kind = .log) :
    a.Dispatched store d client (a.order.run store d client).1 (a.order.run store d client).2 := by
  have hsends (r : Request) : (none = some r) ↔ a.Sends store d r :=
    ⟨nofun, fun hsends => by cases hkind.symm.trans hsends.kind⟩
  have hkind' : a.order.kind = .log := hkind
  have hevaluated := a.order_evaluated store
  rcases hpayload : evaluate store a.entries with e | payload <;>
    simp only [hpayload, Except.mapError] at hevaluated <;>
    simp only [Order.run, Order.start, hkind', hevaluated]
  · exact .of_fails hsends (StartError.message_ne_empty _) (.payload hpayload)
  · refine .of_sends_iff hsends (.payload hkind hpayload) ?_
    simp [fails_iff_of_log hkind, hpayload]

/-- What is reported behind the data. -/
lemma successReports_cases (a : Action) :
    (a.order.successReports = [] ∧ ∀ text, a.successMessage = .given text → text = "") ∨
      ∃ text, a.order.successReports = [⟨.info, .str text⟩] ∧ a.successMessage = .given text ∧
        text ≠ "" := by
  rcases hmessage : a.successMessage with _ | _ | text
  · simp [Order.successReports, order, hmessage, Field.value?, Value.textOrNull, Value.isTruthy]
  · simp [Order.successReports, order, hmessage, Field.value?, Value.textOrNull, Value.isTruthy]
  · by_cases htext : text = "" <;>
      simp [Order.successReports, order, hmessage, htext, Field.value?, Value.textOrNull,
        Value.isTruthy]

/-- The run of an action that calls. -/
lemma dispatched_of_call (hkind : a.kind = .apiCall)
    (hnamed : ∀ r cause, client r = .failure cause → cause.name ≠ "") :
    a.Dispatched store d client (a.order.run store d client).1 (a.order.run store d client).2 := by
  have hkind' : a.order.kind = .apiCall := hkind
  rcases request_cases hkind store d with ⟨r, hrequest, hsends⟩ | ⟨e, hrequest, hnone, hfails⟩ <;>
    simp only [Order.run, Order.start, hkind', hrequest]
  · have hiff (other : Request) : some r = some other ↔ a.Sends store d other := by
      refine ⟨fun heq => ?_, fun hother => congrArg some (hsends.unique hother)⟩
      cases heq
      exact hsends
    rw [Order.finish]
    rcases houtcome : outcomeOf (client r) with e | v
    · refine .of_fails hiff (RequestError.report_ne_empty ?_) (hsends.fails_of_error houtcome)
      rintro cause rfl
      exact hnamed r cause (outcomeOf_eq_transport_iff.mp houtcome)
    · obtain ⟨response, hreply, hcarries, hstatus⟩ := outcomeOf_eq_ok_iff.mp houtcome
      have hnot := hsends.not_fails hreply hcarries hstatus
      rcases successReports_cases a with ⟨hsuccess, hempty⟩ | ⟨text, hsuccess, hmessage, htext⟩
      · rw [hsuccess]
        exact .of_sends_iff hiff (.data rfl hreply hcarries hempty) (by simp [hnot])
      · rw [hsuccess]
        exact .of_sends_iff hiff (.message rfl hreply hcarries hmessage htext) (by simp [hnot])
  · refine .of_fails (fun r => ?_) (StartError.message_ne_empty e) (hfails client)
    simp [hnone r]

/-- The run of any action. -/
lemma dispatched (a : Action) (store : Store) (d : Document) {client : Request → Reply}
    (hnamed : ∀ r cause, client r = .failure cause → cause.name ≠ "") :
    a.Dispatched store d client (a.order.run store d client).1
      (a.order.run store d client).2 := by
  cases hkind : a.kind with
  | log => exact dispatched_of_log hkind
  | apiCall => exact dispatched_of_call hkind hnamed

end Action

/-- **Runs of actions.** Whatever the client and the sink do, a run ends. It sends a request only
if it has a URL for it, offers the sink one failure or what came out, and fails exactly if a step
on the way to the reply or the reply itself does. -/
theorem dispatch_outcome (a : Action) (store : Store) (d : Document) {client : Request → Reply}
    (hnamed : ∀ r cause, client r = .failure cause → cause.name ≠ "")
    {σ : Type} (sink : Sink σ) (state : σ) :
    ∃ request next offered,
      a.order.dispatch store d client sink.recorded (state, []) = (request, next, offered) ∧
      a.order.dispatch store d client sink state = (request, next) ∧
      a.Dispatched store d client request offered := by
  have hdispatched := a.dispatched store d hnamed
  rcases hrun : a.order.run store d client with ⟨request, offered⟩
  rw [hrun] at hdispatched
  refine ⟨request, sink.deliver state offered, offered, ?_, ?_, hdispatched⟩
  · simp only [Order.dispatch, hrun, Sink.deliver_recorded, List.nil_append]
  · rw [Order.dispatch, hrun]

/-- A client without a network. -/
def unreachable (_ : Request) : Reply := .failure ⟨"ConnectError", ""⟩

/-- An action that calls without a payload. -/
def saving : Action where
  kind := .apiCall
  endpoint := .given "save"
  method := .absent
  headers := .absent
  payload := .absent
  successMessage := .given "Saved"
  errorMessage := .absent

/-- A document with an endpoint and nothing to see. -/
def savingDocument : Document where
  name := .absent
  version := .absent
  config := .given ⟨.absent, .given [("save", "https://h/x")], .absent⟩
  root := .text ⟨"text", .absent, .absent⟩ ""
  components := .absent

/-- The failure has a name and no message, and the sink refuses its report. -/
theorem dispatch_saving :
    (∀ r cause, unreachable r = .failure cause → cause.name ≠ "") ∧
      ∃ request next offered,
        saving.order.dispatch [] savingDocument unreachable (ReportLog.sinkUpTo 0).recorded
          ([], []) = (request, next, offered) ∧
        saving.order.dispatch [] savingDocument unreachable (ReportLog.sinkUpTo 0) [] =
          (request, next) ∧
        saving.Dispatched [] savingDocument unreachable request offered := by
  have hnamed (r : Request) (cause : TransportFailure) (hreply : unreachable r = .failure cause) :
      cause.name ≠ "" := by
    cases hreply
    decide
  exact ⟨hnamed, dispatch_outcome saving [] savingDocument hnamed (ReportLog.sinkUpTo 0) []⟩

end LivePage
