/-
Rendering components as pages. Each component becomes one node with the
nodes of its children inside; only inputs look at the store, and each only
at the state under its own id.

* `Component.element`: the element of a component;
* `Component.render`: the node of a component.
-/
import LivePage.Document.Writer
import LivePage.Page.Node
import LivePage.Store

namespace LivePage

/-! ### Elements -/

/-- The tag that a kind of component is shown with. -/
def ComponentKind.tag : ComponentKind → String
  | .container => "div"
  | .text => "span"
  | .input => "input"
  | .button => "button"

/-- The words of a class property, without those that are empty. -/
def classWords (words : List String) : String :=
  " ".intercalate (words.filter fun w => !w.isEmpty)

/-- A class as a property, with another one when it is empty or null. -/
def classOr (fallback : String) (className : Value) : Value :=
  if className.isTruthy then className else .str fallback

def directionClass : Option Direction → String
  | some .row => "flex-row"
  | _ => "flex-col"

def alignClass : Option Alignment → String
  | some .center => "items-center"
  | some .finish => "items-end"
  | some .between => "justify-between"
  | _ => "items-start"

/-- The gap between children when none is declared. -/
def defaultGap : Value := .int 8

/-- The properties of a container. -/
def containerProps (style : Members Value) (className : String) (direction : Option Direction)
    (gap : Option Value) (align : Option Alignment) : Members Value := [
  ("class", .str (classWords ["flex", directionClass direction, alignClass align, className])),
  ("style", .obj (style.put "gap" (gap.getD defaultGap)))]

/-- The properties of a text. -/
def textProps (style className : Value) : Members Value :=
  [("class", className), ("style", style)]

def inputClass : String := "border rounded px-3 py-2"

/-- The value in the state of an input, null and a missing one counting as none. -/
def storedValue? (store : Store) (id : String) : Option Value :=
  match (store.read id).bind (·.member? "value") with
  | none | some .null => none
  | some v => some v

/-- The properties of an input: the value in its state comes before the one that it declares. -/
def inputProps (stored : Option Value) (style className placeholder value name : Value) :
    Members Value := [
  ("name", name),
  ("placeholder", placeholder),
  ("value", stored.getD (if value.isNull then .str "" else value)),
  ("class", classOr inputClass className),
  ("style", style)]

def buttonClass : String := "bg-foreground text-background rounded px-4 py-2"

/-- The properties of a button. -/
def buttonProps (style className : Value) : Members Value :=
  [("class", classOr buttonClass className), ("style", style)]

/-! ### Components -/

/-- The style of a component as it goes into properties. -/
def Attributes.styleMembers (a : Attributes) : Option (Members Value) :=
  a.style.value?.map (·.mapValues StyleValue.toValue)

/-- The style of a component as a property, null when there is none. -/
def Attributes.styleValue (a : Attributes) : Value := (a.styleMembers.map Value.obj).getD .null

/-- The class of a component as a property, null when there is none. -/
def Attributes.classValue (a : Attributes) : Value := .textOrNull a.className.value?

/-- The element of a component. -/
def Component.element (store : Store) : Component → Element
  | .container a arrangement _ => {
    tag := ComponentKind.container.tag
    id := a.id
    props := containerProps (a.styleMembers.getD []) (a.className.value?.getD "")
      arrangement.direction.value? (arrangement.gap.value?.map Value.num) arrangement.align.value?
    text := none
    reaction := none }
  | .text a content => {
    tag := ComponentKind.text.tag
    id := a.id
    props := textProps a.styleValue a.classValue
    text := some content
    reaction := none }
  | .input a entry => {
    tag := ComponentKind.input.tag
    id := a.id
    props := inputProps (storedValue? store a.id) a.styleValue a.classValue
      (.textOrNull entry.placeholder.value?) (.textOrNull entry.value.value?)
      (.textOrNull entry.name.value?)
    text := none
    reaction := some .change }
  | .button a content action => {
    tag := ComponentKind.button.tag
    id := a.id
    props := buttonProps a.styleValue a.classValue
    text := some content
    reaction := some (.click action.value?) }

mutual

/-- The node of a component, given the states of all components. -/
def Component.render (store : Store) : Component → Node
  | .container a arrangement (.given children) =>
    .mk (Component.element store (.container a arrangement (.given children)))
      (Component.renderAll store children)
  | c => .mk (c.element store) []
  termination_by structural c => c

def Component.renderAll (store : Store) : List Component → List Node
  | [] => []
  | c :: rest => c.render store :: Component.renderAll store rest
  termination_by structural cs => cs

end

end LivePage
