/-
Drafts: pages put together without checks. An id or a text may be any value,
and so may a style. Writing a draft as HTML is where this shows: a draft on
which that fails is no page.

* `Draft.page`: the page that a draft is, or what is first met in writing it
  that cannot be written.
-/
import LivePage.Page.Html
import LivePage.Value.Misuse

namespace LivePage

inductive Draft
  | mk (tag : String) (id text : Value) (props : Members Value) (reaction : Option Reaction)
      (children : List Draft)

/-- Why a draft is no page. -/
inductive DraftError
  | misuse (cause : Misuse)
  | unwritable (cause : Json.WriteError)

namespace Draft

/-- What ends the writing of a property: a style that is no object, or an integer that is too
long. -/
def checkProp (name : String) (v : Value) : Except DraftError Unit := do
  if name == "style" then
    let style ← v.membersOrNone.mapError .misuse
    let _ ← (styleText? style).mapError .unwritable
  else
    let _ ← v.display?.mapError .unwritable

/-- What ends the writing of an element: one of its properties, then an id that is no text, then
such a text inside. An element that is void has its text not written. -/
def element (tag : String) (id text : Value) (props : Members Value)
    (reaction : Option Reaction) : Except DraftError Element := do
  props.forM fun (name, v) => checkProp name v
  let id ← (id.textHaving "replace").mapError .misuse
  let bare : Element := ⟨tag, id, props, none, reaction⟩
  if text.isNull || bare.isVoid then return { bare with text := text.str? }
  return { bare with text := some (← (text.textHaving "replace").mapError .misuse) }

mutual

/-- The page that a draft is. Nothing inside a void element is written. -/
def page : Draft → Except DraftError Node
  | .mk tag id text props reaction children => do
    let element ← element tag id text props reaction
    if element.isVoid then return .mk element (pages children).toOption.toList.flatten
    return .mk element (← pages children)
  termination_by structural d => d

def pages : List Draft → Except DraftError (List Node)
  | [] => .ok []
  | d :: rest => do
    let n ← d.page
    let others ← pages rest
    return n :: others
  termination_by structural ds => ds

end

end Draft

end LivePage
