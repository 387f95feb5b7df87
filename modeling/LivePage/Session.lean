/-
Sessions: a document on show, with the states of its components and its
page.

* `Session.mount`: the session that a document starts with;
* `Session.change`, `Session.write`: what edits do to a session;
* `Session.clicked`: what a click on a button runs.
-/
import LivePage.Page.Render

namespace LivePage

structure Session where
  document : Document
  store : Store
  page : Node

/-- No component with an id is shown with a tag. -/
structure LookupError where
  tag : String
  id : String
deriving DecidableEq

def LookupError.message (e : LookupError) : String :=
  s!"No {e.tag} component with id {quoted e.id}"

namespace Session

/-- Renders the page for the present states. -/
def rendered (s : Session) : Session := { s with page := s.document.root.render s.store }

/-- The session that a document starts with. -/
def mount (d : Document) : Session :=
  let store := Store.ofDocument d
  ⟨d, store, d.root.render store⟩

/-- Sets some members of a state. The page stays as it is. -/
def write (s : Session) (id : String) (changes : Members Value) : Session :=
  { s with store := Store.merge s.store id changes }

/-- The first node with an id, which must have the given tag. -/
def node (s : Session) (id tag : String) : Except LookupError Node :=
  match s.page.find? id with
  | some n => if n.tag == tag then .ok n else .error ⟨tag, id⟩
  | none => .error ⟨tag, id⟩

/-- Gives an input a new value, and renders the page. The input is looked up before anything is
written. -/
def change (s : Session) (id : String) (v : Value) : Except LookupError Unit × Session :=
  match s.node id "input" with
  | .error e => (.error e, s)
  | .ok n => (.ok (), (s.write n.id (valueChange v)).rendered)

/-- What a click on a button runs, none when the button has no action. -/
def clicked (s : Session) (id : String) : Except LookupError (Option Action) :=
  (s.node id "button").map fun n =>
    match n.element.reaction with
    | some (.click action) => action
    | _ => none

end Session

end LivePage
