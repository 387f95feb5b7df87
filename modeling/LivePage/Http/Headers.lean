/-
Header lists. Names are compared without regard to case.

* `layer`: headers set over others, which lose the same names;
* `requestHeaders`: the headers of an action's request;
* `Headers.valueOf`: what the headers of a name say together.
-/
import LivePage.Document.Basic
import LivePage.Text.Case

namespace LivePage

/-- Headers in order. A name may occur more than once in a response. -/
abbrev Headers (α : Type) := Members α

namespace Headers

variable {α : Type}

/-- Whether two names are the same up to case. -/
def sameName (name other : String) : Bool := lowerCase name == lowerCase other

/-- Sets a header: all headers of its name go, and it comes last. -/
def set (hs : Headers α) (name : String) (value : α) : Headers α :=
  hs.filter (fun h => !sameName h.1 name) ++ [(name, value)]

/-- Sets headers one after the other. -/
def layer (hs upper : Headers α) : Headers α :=
  upper.foldl (fun all (name, value) => all.set name value) hs

def hasName (hs : Headers α) (name : String) : Bool := hs.any fun h => sameName h.1 name

/-- The values of a name, joined by commas. -/
def valueOf (hs : Headers String) (name : String) : String :=
  ", ".intercalate ((hs.filter fun h => sameName h.1 name).map (·.2))

end Headers

def jsonContentType : String := "application/json"

/-- The headers of a request: the content type, over it the headers of the document, over them
those of the action, and a bearer token if there is one and nothing else authorizes. -/
def requestHeaders (config : Option Config) (action : Members Value) : Headers Value :=
  let shared : Members String := ((config.map (·.headers)).bind Field.value?).getD []
  let first : Headers Value := [("Content-Type", .str jsonContentType)]
  let hs := (first.layer (shared.mapValues .str)).layer action
  match (config.map (·.authToken)).bind Field.value? with
  | some token =>
    if token.isEmpty || hs.hasName "authorization" then hs
    else hs ++ [("Authorization", .str ("Bearer " ++ token))]
  | none => hs

end LivePage
