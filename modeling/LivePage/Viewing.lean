/-
Viewing a document: a host, and the session in view. Events come one after
the other; after an event that succeeds the tasks in line run, unless the
next event is not to wait for them.

* `Viewing.start`: the viewing that a document starts with;
* `Viewing.handle`: what an event does by itself;
* `Viewing.step`: an event and the tasks it leaves in line.
-/
import LivePage.Host

namespace LivePage

structure Viewing where
  host : Host
  /-- The number of the session in view. -/
  current : Nat

/-- What can happen while a document is viewed. -/
inductive Event
  | change (id : String) (value : Value)
  | write (id : String) (changes : Members Value)
  | render
  | press (id : String)
  | click (id : String)
  | release (request : Nat)
  | drain
  | remount

/-- What an event answers when it succeeds. -/
inductive Answer
  | done
  /-- The page in view was rendered. -/
  | rendered
  /-- The reply to a request is held back. -/
  | waiting
  | mounted
deriving DecidableEq

/-- Why an event fails. -/
inductive EventError
  | lookup (cause : LookupError)
  | notHeld (cause : NotHeld)
deriving DecidableEq

namespace Viewing

/-- The viewing that a document starts with on a network. -/
def start (network : List Delivery) (d : Document) : Viewing :=
  let (n, host) := (Host.ofNetwork network).mount d
  ⟨host, n⟩

/-- The session in view. -/
def session? (v : Viewing) : Option Session := v.host.sessions[v.current]?

/-- The number of activations of the session in view that have not ended. -/
def pending (v : Viewing) : Nat := v.host.pending v.current

/-- Mounts the document in view in a new session, which comes into view. -/
def remount (v : Viewing) : Viewing :=
  match v.session? with
  | some s =>
    let (n, host) := v.host.mount s.document
    ⟨host, n⟩
  | none => v

/-- What a click answers when its task has come so far. -/
def progressAnswer : Progress → Answer
  | .ended => .rendered
  | .waiting => .waiting

/-- What an event does by itself. A click that fails lets the tasks in line run first. -/
def handle (v : Viewing) : Event → Except EventError Answer × Viewing
  | .change id value =>
    let (result, host) := v.host.change v.current id value
    ((result.map fun _ => .rendered).mapError .lookup, { v with host := host })
  | .write id changes =>
    (.ok .done, { v with host := v.host.modify v.current (·.write id changes) })
  | .render => (.ok .rendered, { v with host := v.host.modify v.current Session.rendered })
  | .press id =>
    let (result, host) := v.host.press v.current id
    ((result.map fun _ => .done).mapError .lookup, { v with host := host })
  | .click id =>
    let (result, host) := v.host.click v.current id
    ((result.map progressAnswer).mapError .lookup, { v with host := host })
  | .release request =>
    match v.host.release request with
    | .ok host => (.ok .done, { v with host := host })
    | .error e => (.error (.notHeld e), v)
  | .drain => (.ok .done, { v with host := v.host.drain v.current })
  | .remount => (.ok .mounted, v.remount)

/-- An event, and behind one that succeeds the tasks in line, unless it is lazy. -/
def step (v : Viewing) (e : Event) (isLazy : Bool) : Except EventError Answer × Viewing :=
  match v.handle e with
  | (.ok answer, v) =>
    (.ok answer, if isLazy then v else { v with host := v.host.settle })
  | (.error cause, v) => (.error cause, v)

end Viewing

end LivePage
