/-
Requests to endpoints and what comes back. A response is decoded before
its status is looked at; a status outside 200 to 299 turns what was
decoded into an error.

* `Request.body`: the text that a request carries;
* `Response.decode`: the value that a response carries;
* `outcomeOf`: the outcome of a request, given the reply to it.
-/
import LivePage.Http.ContentType
import LivePage.Http.Headers
import LivePage.Json.Repair
import LivePage.Json.Writer

namespace LivePage

/-- A request, with everything decided. The method and the headers are texts, unless the action
was put together without checks. -/
structure Request where
  method : Value
  url : String
  headers : Headers Value
  payload : Option Value

/-- The text that a request carries: its payload, or the empty object. A `GET` carries
none. -/
def Request.body (r : Request) : Except Json.WriteError (Option String) :=
  if r.method.str? == some "GET" then .ok none
  else (Json.compact? (r.payload.getD (.obj []))).map some

/-- Why the body of a response cannot be decoded. -/
inductive BodyError
  | json (cause : Json.DecodeError)
  | contentType (cause : ContentType.Fault)
  | charset (cause : CharsetFault)

def BodyError.message : BodyError → String
  | .json cause => cause.message
  | .contentType cause => cause.message
  | .charset cause => cause.message

structure Response where
  status : Nat
  headers : Headers String
  body : List UInt8

namespace Response

def contentType (r : Response) : String := r.headers.valueOf "content-type"

/-- Whether a list occurs inside another one. -/
def occursIn (part : List Char) : List Char → Bool
  | [] => part.isEmpty
  | c :: rest => part.isPrefixOf (c :: rest) || occursIn part rest

/-- Whether the content type says that the body is JSON. -/
def isJson (r : Response) : Bool := occursIn jsonContentType.toList r.contentType.toList

/-- The body as text. It is in UTF-8 unless the content type asks for a character set that is
known. -/
def text (r : Response) : Except BodyError String :=
  if r.body.isEmpty then .ok ""
  else match ContentType.charset? r.contentType with
    | .error e => .error (.contentType e)
    | .ok set => ((set.getD .utf8).decode r.body).mapError .charset

/-- The value that a response carries: a JSON value when the content type says so, else a
text. -/
def decode (r : Response) : Except BodyError Value :=
  if r.isJson then (Json.decode false (.bytes r.body)).mapError .json else r.text.map Value.str

def isSuccess (r : Response) : Bool := 200 ≤ r.status && r.status ≤ 299

end Response

/-- Why no response came. -/
structure TransportFailure where
  /-- The name of the failure. -/
  name : String
  message : String
deriving DecidableEq

/-- What comes back for a request. -/
inductive Reply
  | response (r : Response)
  | failure (f : TransportFailure)

/-- Why a request gives no data. -/
inductive RequestError
  | transport (cause : TransportFailure)
  | undecodable (cause : BodyError)
  /-- The status is no success; `body` is what the response carried. -/
  | refused (status : Nat) (body : Value)

/-- The message of a refusal: what the response carried, or the status when that is empty. -/
def refusalMessage (status : Nat) (body : Value) : String :=
  let message := match body with
    | .str s => s
    | v => Json.compact v
  if message.isEmpty then s!"Request failed with {status}" else message

def RequestError.message : RequestError → String
  | .transport cause => cause.message
  | .undecodable cause => cause.message
  | .refused status body => refusalMessage status body

/-- The name of a request error whose message may be empty. -/
def RequestError.name? : RequestError → Option String
  | .transport cause => some cause.name
  | .undecodable (.charset .bytesOnly) => some "AssertionError"
  | _ => none

/-- What is reported of a request error: its message, or its name when that is empty. -/
def RequestError.report (e : RequestError) : String :=
  if e.message.isEmpty then e.name?.getD "" else e.message

/-- The outcome of a request, given the reply to it. -/
def outcomeOf : Reply → Except RequestError Value
  | .failure cause => .error (.transport cause)
  | .response r =>
    match r.decode with
    | .error cause => .error (.undecodable cause)
    | .ok v => if r.isSuccess then .ok v else .error (.refused r.status v)

end LivePage
