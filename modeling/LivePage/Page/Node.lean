/-
Pages: trees of elements with properties, text, and what happens on an
event.

* `Node.walk`: a node and its descendants, in reading order;
* `Node.find?`: the first node with an id;
* `Element.fire`: what an event on an element calls.
-/
import LivePage.Document.Basic

namespace LivePage

/-- What an element reacts to. -/
inductive Reaction
  /-- A change of its value, which is written to the store. -/
  | change
  /-- A click, which runs an action if there is one. -/
  | click (action : Option Action)
deriving DecidableEq

def Reaction.event : Reaction → String
  | .change => "change"
  | .click _ => "click"

/-- One element of a page, without what is inside it. -/
structure Element where
  tag : String
  id : String
  props : Members Value
  text : Option String
  reaction : Option Reaction

inductive Node
  | mk (element : Element) (children : List Node)

namespace Node

def element : Node → Element
  | .mk element _ => element

def tag (n : Node) : String := n.element.tag

def id (n : Node) : String := n.element.id

mutual

/-- A node and its descendants, each before its children. -/
def walk : Node → List Node
  | .mk element children => .mk element children :: walkAll children
  termination_by structural n => n

def walkAll : List Node → List Node
  | [] => []
  | n :: rest => n.walk ++ walkAll rest
  termination_by structural ns => ns

end

/-- The first node with an id. -/
def find? (n : Node) (id : String) : Option Node := n.walk.find? (·.id == id)

end Node

/-- What an event calls. -/
inductive Call
  | write (id : String) (changes : Members Value)
  | dispatch (action : Action)

/-- The changes that a new value of an input makes to its state. -/
def valueChange (v : Value) : Members Value := [("value", v)]

/-- What an event on an element calls, none when the element does not react to it. -/
def Element.fire (e : Element) (event : String) (value : Value) : Option (List Call) :=
  match e.reaction with
  | none => none
  | some reaction =>
    if reaction.event != event then none
    else match reaction with
      | .change => some [.write e.id (valueChange value)]
      | .click none => some []
      | .click (some action) => some [.dispatch action]

end LivePage
