/-
Hosts: sessions that share a network and a report log. A press makes a
task, with the store as it is at that moment. Tasks wait in line; each
runs until it ends or until the reply to its request is held back, and a
reply that is let go puts its task at the end of the line.

* `Host.press`, `Host.click`: the two ways to activate a button;
* `Host.settle`: runs all tasks in line;
* `Host.release`, `Host.drain`: let replies go that are held back.
-/
import LivePage.Dispatch
import LivePage.Session

namespace LivePage

/-- What the network does with a request: its reply, and whether that is held back. -/
structure Delivery where
  reply : Reply
  held : Bool

/-- What the network does unless told otherwise: it answers with an empty response. -/
def Delivery.plain : Delivery := ⟨.response ⟨200, [], []⟩, false⟩

/-- What is left to do of an activation. -/
inductive Work
  | start (order : Option Order) (store : Store)
  | finish (order : Order) (reply : Reply)

/-- An activation of a button. -/
structure Task where
  /-- The number of its session. -/
  session : Nat
  /-- Whether nobody waits for its end. -/
  pressed : Bool
  work : Work

/-- A task whose reply is held back. -/
structure Held where
  /-- The number of its request. -/
  request : Nat
  task : Task

structure Host where
  /-- What the network does with the requests, in the order in which they are made. -/
  network : List Delivery
  /-- Whether replies may be held back. -/
  holding : Bool
  sessions : List Session
  /-- The tasks in line. -/
  line : List Task
  held : List Held
  /-- The requests made so far. -/
  sent : List Request
  log : ReportLog

/-- How far a task has come. -/
inductive Progress
  | ended
  | waiting
deriving DecidableEq

/-- No reply is held back for a request. -/
structure NotHeld where
  request : Nat
deriving DecidableEq

namespace Host

/-- A host without sessions on a network. -/
def ofNetwork (network : List Delivery) : Host := ⟨network, true, [], [], [], [], []⟩

/-- Mounts a document in a new session, whose number is given too. -/
def mount (h : Host) (d : Document) : Nat × Host :=
  (h.sessions.length, { h with sessions := h.sessions ++ [.mount d] })

/-- Changes a session. -/
def modify (h : Host) (n : Nat) (f : Session → Session) : Host :=
  { h with sessions := h.sessions.modify n f }

/-- Ends a task: its reports are logged, and its session is rendered. -/
def conclude (h : Host) (n : Nat) (reports : List Report) : Host :=
  { h with log := ReportLog.sink.deliver h.log reports }.modify n Session.rendered

/-- Makes the request of an order. -/
def send (h : Host) (task : Task) (order : Order) (request : Request) : Host × Progress :=
  let number := h.sent.length
  let delivery := h.network[number]?.getD .plain
  let h := { h with sent := h.sent ++ [request] }
  if delivery.held && h.holding then
    let task := { task with work := .finish order delivery.reply }
    ({ h with held := h.held ++ [⟨number, task⟩] }, .waiting)
  else (h.conclude task.session (order.finish delivery.reply), .ended)

/-- Runs a task until it ends or waits. -/
def run (h : Host) (task : Task) : Host × Progress :=
  match task.work with
  | .finish order reply => (h.conclude task.session (order.finish reply), .ended)
  | .start none _ => (h.conclude task.session [], .ended)
  | .start (some order) store =>
    match h.sessions[task.session]? with
    | none => (h, .ended)
    | some s =>
      match order.start store s.document with
      | .finished reports => (h.conclude task.session reports, .ended)
      | .waiting request => h.send task order request

/-- Runs all tasks in line. -/
def settle (h : Host) : Host :=
  h.line.foldl (fun h task => (h.run task).1) { h with line := [] }

/-- Looks something up in a session; there is nothing in one that does not exist. -/
def lookup {α : Type} (h : Host) (n : Nat) (missing : LookupError)
    (find : Session → Except LookupError α) : Except LookupError α :=
  match h.sessions[n]? with
  | some s => find s
  | none => .error missing

/-- The task of activating a button now. -/
def activation (h : Host) (n : Nat) (id : String) (pressed : Bool) : Except LookupError Task :=
  h.lookup n ⟨"button", id⟩ fun s =>
    (s.clicked id).map fun action => ⟨n, pressed, .start (action.map Action.order) s.store⟩

/-- Activates a button, and does not wait. -/
def press (h : Host) (n : Nat) (id : String) : Except LookupError Unit × Host :=
  match h.activation n id true with
  | .error e => (.error e, h)
  | .ok task => (.ok (), { h with line := h.line ++ [task] })

/-- Activates a button when the tasks in line have run, and runs its task. -/
def click (h : Host) (n : Nat) (id : String) : Except LookupError Progress × Host :=
  let h := h.settle
  match h.activation n id false with
  | .error e => (.error e, h)
  | .ok task =>
    let (h, progress) := h.run task
    (.ok progress, h)

/-- Gives an input a new value. -/
def change (h : Host) (n : Nat) (id : String) (v : Value) : Except LookupError Unit × Host :=
  match h.sessions[n]? with
  | none => (.error ⟨"input", id⟩, h)
  | some s =>
    let (result, s) := s.change id v
    (result, h.modify n fun _ => s)

/-- Lets the reply to a request go. -/
def release (h : Host) (request : Nat) : Except NotHeld Host :=
  match h.held.find? (·.request == request) with
  | none => .error ⟨request⟩
  | some found =>
    .ok { h with
      held := h.held.filter (·.request != request)
      line := h.line ++ [found.task] }

/-- The number of activations in a session that nobody waits for and that have not ended. -/
def pending (h : Host) (n : Nat) : Nat :=
  ((h.line ++ h.held.map (·.task)).filter fun task => task.pressed && task.session == n).length

/-- Lets all replies go, in the order of their requests, and holds none back from here on. -/
def unhold (h : Host) : Host :=
  { h with holding := false, held := [], line := h.line ++ h.held.map (·.task) }

/-- Lets all replies go, and waits for the activations in a session that have not ended. While
there are any, all tasks in line run; otherwise they stay in line. -/
def drain (h : Host) (n : Nat) : Host :=
  if h.pending n = 0 then h.unhold else h.unhold.settle

end Host

end LivePage
