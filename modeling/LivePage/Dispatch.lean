/-
Running actions. An action comes down to an order, in which only its
bindings are still open. Starting an order either finishes it at once with
its reports, or makes a request; the reply to the request finishes it.
Nothing fails: what goes wrong is one error report.

* `Action.order`: the order of an action;
* `Order.start`, `Order.finish`: the two halves of a run;
* `Order.run`, `Order.dispatch`: both halves in one, with a client that
  replies and with a sink for the reports.
-/
import LivePage.Http.Client
import LivePage.Report
import LivePage.Resolution
import LivePage.Value.Misuse

namespace LivePage

/-- Why an action makes no request. -/
inductive StartError
  | hugeIndex (cause : HugeIndex)
  /-- The endpoint has no URL. -/
  | unknownEndpoint (endpoint : Value)
  | misuse (cause : Misuse)
  /-- The payload cannot be written. -/
  | unwritable (cause : Json.WriteError)
deriving DecidableEq

def StartError.message : StartError → String
  | .hugeIndex cause => cause.message
  | .unknownEndpoint endpoint =>
    match endpoint.display? with
    | .ok text => "Unknown endpoint key: " ++ text
    | .error cause => cause.message
  | .misuse cause => cause.message
  | .unwritable cause => cause.message

/-- The URLs of the endpoints of a document. -/
def Document.endpoints (d : Document) : Members String :=
  (d.config.value?.bind (·.endpoints.value?)).getD []

/-- The URL of an endpoint. What is no text has none; the empty text and the empty URL count as
unknown. A value that counts is looked up. -/
def Document.endpointUrl (d : Document) (endpoint : Value) : Except StartError String :=
  if !endpoint.isTruthy then .error (.unknownEndpoint endpoint)
  else match endpoint.key with
    | .error e => .error (.misuse e)
    | .ok key =>
      match key.str?.bind d.endpoints.get? with
      | some url => if url.isEmpty then .error (.unknownEndpoint key) else .ok url
      | none => .error (.unknownEndpoint key)

/-- What an action comes down to. An action put together without checks may hold any values, of
which the payload and the headers may be misused. -/
structure Order where
  kind : ActionKind
  /-- The name of the endpoint, null when there is none. -/
  endpoint : Value
  method : Value
  headers : Except Misuse (Members Value)
  payload : Except Misuse (Payload Value)
  /-- What is reported behind the data, unless it is null or empty. -/
  successMessage : Value

/-- The method of a request when the action names none. -/
def defaultMethod : Method := .post

/-- The order of an action, with the defaults applied. -/
def Action.order (a : Action) : Order where
  kind := a.kind
  endpoint := Value.textOrNull a.endpoint.value?
  method := .str (Vocabulary.text (a.method.value?.getD defaultMethod))
  headers := .ok ((a.headers.value?.getD []).mapValues Value.str)
  payload := .ok (Payload.widen (a.payload.value?.getD []))
  successMessage := Value.textOrNull a.successMessage.value?

namespace Order

/-- The order of the fields of an action that was put together without checks, none when its
type is no known one. Its payload holds no bindings. -/
def ofFields? (fields : Members Value) : Except Misuse (Option Order) := do
  let field (name : String) : Value := (fields.get? name).getD .null
  let some type := fields.get? "type" | throw (.lacks "Action" "type")
  return (type.str?.bind (Vocabulary.ofText? ActionKind)).map fun kind => {
    kind := kind
    endpoint := field "endpoint"
    method :=
      if (field "method").isTruthy then field "method"
      else .str (Vocabulary.text defaultMethod)
    headers := (field "headers").membersOrNone
    payload := (field "payload").membersOrNone.map (·.mapValues .literal)
    successMessage :=
      ((fields.get? "successMessage").or (fields.get? "success_message")).getD .null }

/-- The payload of an order with its bindings followed. -/
def evaluated (o : Order) (store : Store) : Except StartError (Members Value) :=
  match o.payload with
  | .error e => .error (.misuse e)
  | .ok payload => (evaluate store payload).mapError .hugeIndex

/-- The request of an order. The payload comes before the endpoint, the endpoint before the
headers, and the headers before the text that the request carries. -/
def request (o : Order) (store : Store) (d : Document) : Except StartError Request :=
  match o.evaluated store with
  | .error e => .error e
  | .ok payload =>
    match d.endpointUrl o.endpoint with
    | .error e => .error e
    | .ok url =>
      match o.headers with
      | .error e => .error (.misuse e)
      | .ok headers =>
        let request : Request :=
          ⟨o.method, url, requestHeaders d.config.value? headers, some (.obj payload)⟩
        match request.body with
        | .error e => .error (.unwritable e)
        | .ok _ => .ok request

/-- The report of a failure. -/
def failure (message : String) : List Report := [⟨.error, .str message⟩]

/-- What has become of an order that was started. -/
inductive Started
  | finished (reports : List Report)
  | waiting (request : Request)

/-- Starts an order. -/
def start (o : Order) (store : Store) (d : Document) : Started :=
  match o.kind with
  | .log =>
    match o.evaluated store with
    | .ok payload => .finished [⟨.info, .obj payload⟩]
    | .error e => .finished (failure e.message)
  | .apiCall =>
    match o.request store d with
    | .ok request => .waiting request
    | .error e => .finished (failure e.message)

/-- The message of success, unless it is null or empty. -/
def successReports (o : Order) : List Report :=
  if o.successMessage.isTruthy then [⟨.info, o.successMessage⟩] else []

/-- The reports of an order whose request has been replied to. -/
def finish (o : Order) (reply : Reply) : List Report :=
  match outcomeOf reply with
  | .ok data => ⟨.info, .obj [("ok", .bool true), ("data", data)]⟩ :: o.successReports
  | .error e => failure e.report

/-- The request of an order, if it makes one, and its reports, if `client` replies. -/
def run (o : Order) (store : Store) (d : Document) (client : Request → Reply) :
    Option Request × List Report :=
  match o.start store d with
  | .finished reports => (none, reports)
  | .waiting request => (some request, o.finish (client request))

/-- The request of an order, if it makes one, and what its reports make of a sink. -/
def dispatch {σ : Type} (o : Order) (store : Store) (d : Document) (client : Request → Reply)
    (sink : Sink σ) (state : σ) : Option Request × σ :=
  let (request, reports) := o.run store d client
  (request, sink.deliver state reports)

end Order

end LivePage
