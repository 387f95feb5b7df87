/-
Pages as HTML text.

* `escapeHtml`: text that stands for itself;
* `Node.html`: the HTML text of a node;
* `Node.html?`: the same, if no integer in it is too long.
-/
import LivePage.Page.Css
import LivePage.Page.Node

namespace LivePage

/-- A character in text or inside quotes. -/
def escapeHtmlChar : Char → List Char
  | '&' => "&amp;".toList
  | '<' => "&lt;".toList
  | '>' => "&gt;".toList
  | '"' => "&quot;".toList
  | '\'' => "&#x27;".toList
  | c => [c]

/-- A text with the characters escaped that mean something in HTML. -/
def escapeHtml (s : String) : String := String.ofList (s.toList.flatMap escapeHtmlChar)

/-- The text of a property, none when it is not written: a null, or a style that is empty. -/
def propText? (name : String) (v : Value) : Option String :=
  if v.isNull then none
  else if name == "style" then
    let css := styleText (v.obj?.getD [])
    if css.isEmpty then none else some css
  else some v.display

/-- The attributes of an element: its id, and its properties that are written. -/
def Element.attributes (e : Element) : List (String × String) :=
  ("data-id", e.id) ::
    e.props.filterMap fun (name, v) => (propText? name v).map fun text => (name, text)

/-- An attribute behind a space. -/
def attributeHtml (name text : String) : String := s!" {name}=\"{escapeHtml text}\""

/-- The opening tag of an element. -/
def Element.openingTag (e : Element) : String :=
  "<" ++ e.tag ++ String.join (e.attributes.map fun (name, text) => attributeHtml name text) ++ ">"

/-- The closing tag of an element. -/
def Element.closingTag (e : Element) : String := "</" ++ e.tag ++ ">"

/-- Whether an element has nothing inside and no closing tag. -/
def Element.isVoid (e : Element) : Bool := e.tag == "input"

mutual

/-- The HTML text of a node, however long its integers are: its text comes before its
children. -/
def Node.html : Node → String
  | .mk element children =>
    if element.isVoid then element.openingTag
    else element.openingTag ++ escapeHtml (element.text.getD "") ++ Node.htmlOfAll children ++
      element.closingTag
  termination_by structural n => n

def Node.htmlOfAll : List Node → String
  | [] => ""
  | n :: rest => n.html ++ Node.htmlOfAll rest
  termination_by structural ns => ns

end

/-! ### Long integers -/

/-- Whether an integer in the properties of an element has too many digits to be written. -/
def Element.hasHugeInteger (e : Element) : Bool :=
  e.props.any fun (_, v) => Json.hasHugeInteger v

mutual

/-- Whether an integer in a node has too many digits to be written. What is inside a void element
does not count, since it is not written. -/
def Node.hasHugeInteger : Node → Bool
  | .mk element children =>
    element.hasHugeInteger || !element.isVoid && Node.anyHasHugeInteger children
  termination_by structural n => n

def Node.anyHasHugeInteger : List Node → Bool
  | [] => false
  | n :: rest => n.hasHugeInteger || Node.anyHasHugeInteger rest
  termination_by structural ns => ns

end

/-- The HTML text of a node, if its integers are not too long to be written. -/
def Node.html? (n : Node) : Except Json.WriteError String :=
  if n.hasHugeInteger then .error .hugeInteger else .ok n.html

end LivePage
