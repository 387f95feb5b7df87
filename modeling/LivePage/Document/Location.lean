/-
Places in a document, as the field names and indices that lead there.

* `Location.text`: a place as it shows in messages, `root.children[0].id`.
-/
import LivePage.Text.Textual

namespace LivePage

/-- One step towards a place in a document. An index below zero counts from the end. -/
inductive Part (τ : Type := String)
  | name (key : τ)
  | index (n : Int)
deriving DecidableEq

/-- A place in a document. -/
abbrev Location (τ : Type := String) := List (Part τ)

namespace Location

variable {τ : Type}

/-- The place of a field. -/
def field (place : Location τ) (key : τ) : Location τ := place ++ [.name key]

/-- The place of an element. -/
def element (place : Location τ) (n : Nat) : Location τ := place ++ [.index n]

variable [DecidableEq τ] [Textual τ]

/-- Appends a step to the text of a place. A name is set off by a point, except in front. -/
def extend (path : τ) : Part τ → τ
  | .name key => if path = "" then key else path ++ ("." : String) ++ key
  | .index n => path ++ s!"[{n}]"

/-- A place as it shows in messages. -/
def text (place : Location τ) : τ := place.foldl extend ("" : String)

end Location

end LivePage
