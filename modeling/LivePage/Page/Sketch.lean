/-
Sketches: components put together without checks. Any field may be missing
or hold any value. Rendering a sketch follows the rules for components, and
ends at the first field that is missing or cannot be used.

* `Sketch.ofValue`: the sketch that an object describes;
* `Sketch.draft`: the draft of a sketch, if it has one.
-/
import LivePage.Document.Reader
import LivePage.Page.Draft
import LivePage.Page.Render

namespace LivePage

inductive Sketch
  | mk (fields : Members Value) (children : List Sketch)

/-- What a kind of component is called in messages. -/
def ComponentKind.title : ComponentKind → String
  | .container => "ContainerComponent"
  | .text => "TextComponent"
  | .input => "InputComponent"
  | .button => "ButtonComponent"

namespace Sketch

mutual

/-- The sketch that an object describes. What is no object describes an empty one. -/
def ofValue : Value → Sketch
  | .obj fields => .mk fields (childrenOf fields)
  | _ => .mk [] []
  termination_by structural v => v

def childrenOf : List (String × Value) → List Sketch
  | [] => []
  | ("children", .arr items) :: _ => ofValues items
  | _ :: rest => childrenOf rest
  termination_by structural fields => fields

def ofValues : List Value → List Sketch
  | [] => []
  | v :: rest => ofValue v :: ofValues rest
  termination_by structural items => items

end

/-! ### Fields -/

/-- A field that may be missing, which is null then. -/
def optional (fields : Members Value) (name : String) : Value := (fields.get? name).getD .null

/-- A field that must be there. -/
def required (kind : ComponentKind) (fields : Members Value) (name : String) :
    Except Misuse Value :=
  match fields.get? name with
  | some v => .ok v
  | none => .error (.lacks kind.title name)

/-- The class, which has two names. -/
def className (fields : Members Value) : Value :=
  ((fields.get? "className").or (fields.get? "class_name")).getD .null

/-- The words of a container's class behind its own three. -/
def classText (v : Value) : Except Misuse String :=
  match v with
  | .str s => .ok s
  | v => if v.isTruthy then .error (.notText 3 v.kindName) else .ok ""

/-- The direction that a value names, if any. -/
def direction? (v : Value) : Option Direction := v.str?.bind (Vocabulary.ofText? Direction)

/-- The alignment that a value names, if any. One that counts is looked up. -/
def alignment? (v : Value) : Except Misuse (Option Alignment) := do
  if v.isTruthy then
    return (← v.key).str?.bind (Vocabulary.ofText? Alignment)
  return none

/-- The action of a button, none when it is not well formed. -/
def action? (v : Value) : Option Action := (Action.read v).toOption

/-! ### Rendering -/

/-- The draft of a text. -/
def textDraft (fields : Members Value) : Except Misuse Draft := do
  let id ← required .text fields "id"
  let text ← required .text fields "text"
  return .mk ComponentKind.text.tag id text
    (textProps (optional fields "style") (className fields)) none []

/-- The draft of an input. Its id is looked up in the store. -/
def inputDraft (store : Store) (fields : Members Value) : Except Misuse Draft := do
  let id ← required .input fields "id"
  let key ← id.key
  return .mk ComponentKind.input.tag id .null
    (inputProps (key.str?.bind (storedValue? store)) (optional fields "style") (className fields)
      (optional fields "placeholder") (optional fields "value") (optional fields "name"))
    (some .change) []

/-- The draft of a button. -/
def buttonDraft (fields : Members Value) : Except Misuse Draft := do
  let id ← required .button fields "id"
  let text ← required .button fields "text"
  return .mk ComponentKind.button.tag id text
    (buttonProps (optional fields "style") (className fields))
    (some (.click (action? (optional fields "action")))) []

/-- The draft of a container, around those of its children. -/
def containerDraft (fields : Members Value) (align : Option Alignment) (children : List Draft) :
    Except Misuse Draft := do
  let id ← required .container fields "id"
  let className ← classText (className fields)
  let style ← (optional fields "style").mapping
  let gap := optional fields "gap"
  return .mk ComponentKind.container.tag id .null
    (containerProps style className (direction? (optional fields "direction"))
      (if gap.isNull then none else some gap) align)
    none children

/-- Children that count must be something to go through. -/
def checkChildren (v : Value) : Except Misuse Unit := do
  if v.isTruthy then
    let _ ← v.elements

mutual

/-- The draft of a sketch. One of no known kind has none, and is left out of its container. -/
def draft (store : Store) : Sketch → Except Misuse (Option Draft)
  | .mk fields children => do
    match (fields.get? "type").bind fun v => v.str?.bind (Vocabulary.ofText? ComponentKind) with
    | none => return none
    | some .text => return some (← textDraft fields)
    | some .input => return some (← inputDraft store fields)
    | some .button => return some (← buttonDraft fields)
    | some .container =>
      let align ← alignment? (optional fields "align")
      checkChildren (optional fields "children")
      let inside ← drafts store children
      return some (← containerDraft fields align inside)
  termination_by structural s => s

def drafts (store : Store) : List Sketch → Except Misuse (List Draft)
  | [] => .ok []
  | s :: rest => do
    let first ← s.draft store
    let others ← drafts store rest
    return first.toList ++ others
  termination_by structural ss => ss

end

end Sketch

end LivePage
