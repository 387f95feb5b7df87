/-
A playground: an editor with a preview. The text in the editor is loaded
whenever it changes, and either a session on its document is shown, or the
reasons why there is none.

* `Playground.update`, `Playground.load`: new text, given or from a
  template;
* `Playground.change`, `Playground.click`: events on the session shown;
* `Playground.preview`: what the preview shows.
-/
import LivePage.Host
import LivePage.Loader
import LivePage.Page.Html
import LivePage.Template

namespace LivePage

structure Playground where
  loader : Loader
  host : Host
  /-- The text in the editor, once there is one. -/
  text : Option RawText
  /-- The number of the session shown. -/
  shown : Option Nat
  /-- Why no session is shown. -/
  errors : List String

/-- Why a template is not put into the editor. -/
inductive TemplateError
  | unknown (name : String)
  | unanswered (cause : Loader.Unanswered)
deriving DecidableEq

def TemplateError.message : TemplateError → String
  | .unknown name => "Unknown template: " ++ name
  | .unanswered cause => cause.message

namespace Playground

/-- A playground without text. -/
def ofLoader (loader : Loader) (network : List Delivery) : Playground :=
  ⟨loader, .ofNetwork network, none, none, []⟩

/-- Shows a document in a new session, or the reasons why there is none. -/
def display (p : Playground) : Outcome → Playground
  | .ok d =>
    let (number, host) := p.host.mount d
    { p with host := host, shown := some number, errors := [] }
  | .error rejection => { p with shown := none, errors := rejection.messages }

/-- Puts text into the editor. New text clears the reports and is loaded; the text that is
there already changes nothing. When loading does not answer, the text is new, and what was shown of
the old one stays. -/
def update (p : Playground) (text : RawText) : Except Loader.Unanswered Unit × Playground :=
  if p.text == some text then (.ok (), p)
  else
    let p := { p with text := some text, host := { p.host with log := [] } }
    match p.loader.load (.text text) with
    | (.ok loaded, loader) => (.ok (), { p with loader := loader }.display loaded.outcome)
    | (.error cause, loader) => (.error cause, { p with loader := loader })

/-- Puts a template into the editor. -/
def load (p : Playground) (name : String) : Except TemplateError Unit × Playground :=
  match Template.named? name with
  | some template =>
    let (result, p) := p.update (Template.text template)
    (result.mapError .unanswered, p)
  | none => (.error (.unknown name), p)

/-- The session shown. -/
def session? (p : Playground) : Option Session := p.shown.bind fun n => p.host.sessions[n]?

/-- What the preview shows: the errors, a line each, or the page of the session. -/
def preview (p : Playground) : Except Json.WriteError String :=
  if !p.errors.isEmpty then .ok ("\n".intercalate p.errors)
  else match p.session? with
    | some s => s.page.html?
    | none => .ok ""

/-- Gives an input of the session shown a new value; nothing happens when none is shown. -/
def change (p : Playground) (id : String) (v : Value) : Except LookupError Unit × Playground :=
  match p.shown with
  | none => (.ok (), p)
  | some n =>
    let (result, host) := p.host.change n id v
    (result, { p with host := host })

/-- Clicks a button of the session shown; nothing happens when none is shown. -/
def click (p : Playground) (id : String) : Except LookupError Unit × Playground :=
  match p.shown with
  | none => (.ok (), p)
  | some n =>
    let (result, host) := p.host.click n id
    (result.map fun _ => (), { p with host := host })

end Playground

end LivePage
