/-
Issues: why a value cannot be read as the type that is wanted. An issue
names its place by fields and indices, and behind each component by the
kind of the component too; in words the kinds are left out again.

* `Issue.message`: an issue in words;
* `Checked`: a value, or all issues that stand in its way.
-/
import LivePage.Document.Location
import LivePage.Document.Vocabulary
import LivePage.Text.Blank

namespace LivePage

/-- Why a value cannot be read. -/
inductive Mismatch
  | missing
  | notText
  | notInteger
  | unreadableInteger
  | oversizedInteger
  | fractional
  | notNumber
  | unreadableNumber
  | notFinite
  | notBoolean
  | unreadableBoolean
  | notObject
  | notRecord (name : String)
  | notAmong (words : List String)
  | notPositive
  | tooNested
deriving DecidableEq

/-- The short name of a mismatch. -/
def Mismatch.code : Mismatch → String
  | .missing => "missing"
  | .notText => "string_type"
  | .notInteger => "int_type"
  | .unreadableInteger => "int_parsing"
  | .oversizedInteger => "int_parsing_size"
  | .fractional => "int_from_float"
  | .notNumber => "float_type"
  | .unreadableNumber => "float_parsing"
  | .notFinite => "finite_number"
  | .notBoolean => "bool_type"
  | .unreadableBoolean => "bool_parsing"
  | .notObject => "dict_type"
  | .notRecord _ => "model_type"
  | .notAmong _ => "literal_error"
  | .notPositive => "greater_than"
  | .tooNested => "recursion_loop"

/-- Words in quotes, with `or` before the last one. -/
def alternatives (words : List String) : String :=
  match (words.map fun w => "'" ++ w ++ "'").reverse with
  | [] => ""
  | [only] => only
  | last :: before => ", ".intercalate before.reverse ++ " or " ++ last

def Mismatch.text : Mismatch → String
  | .missing => "Field required"
  | .notText => "Input should be a valid string"
  | .notInteger => "Input should be a valid integer"
  | .unreadableInteger =>
    "Input should be a valid integer, unable to parse string as an integer"
  | .oversizedInteger =>
    "Unable to parse input string as an integer, exceeded maximum size"
  | .fractional => "Input should be a valid integer, got a number with a fractional part"
  | .notNumber => "Input should be a valid number"
  | .unreadableNumber => "Input should be a valid number, unable to parse string as a number"
  | .notFinite => "Input should be a finite number"
  | .notBoolean => "Input should be a valid boolean"
  | .unreadableBoolean => "Input should be a valid boolean, unable to interpret input"
  | .notObject => "Input should be a valid dictionary"
  | .notRecord name => "Input should be a valid dictionary or instance of " ++ name
  | .notAmong words => "Input should be " ++ alternatives words
  | .notPositive => "Input should be greater than 0"
  | .tooNested => "Recursion error - cyclic reference detected"

/-- A mismatch and its place. -/
structure Issue (τ : Type := String) where
  place : Location τ
  mismatch : Mismatch
deriving DecidableEq

namespace Issue

variable {τ : Type} [DecidableEq τ] [Textual τ]

/-- Whether a step only tells the kind of what stands at the place before it: a component
kind behind the root or an index, or the kind of a payload entry. -/
def tellsKind (previous : Option (Part τ)) : Part τ → Bool
  | .index _ => false
  | .name key =>
    let behindComponent := match previous with
      | some (.index _) => true
      | some (.name before) => before == "root"
      | none => false
    (behindComponent && ((Vocabulary.words ComponentKind).map Textual.lit).contains key) ||
      key == "BoundValue" || key == "LiteralValue"

/-- Extends the text of a place by the steps that do not tell kinds. -/
def placeTextFrom (path : τ) (previous : Option (Part τ)) : Location τ → τ
  | [] => path
  | part :: rest =>
    if tellsKind previous part then placeTextFrom path none rest
    else placeTextFrom (Location.extend path part) (some part) rest

/-- The text of a place, without the steps that tell kinds. -/
def placeText (place : Location τ) : τ := placeTextFrom ("" : String) none place

/-- A place and what is said of it, without blanks at the ends. -/
def phrase (place : Location τ) (said : String) : τ :=
  Textual.trim (placeText place ++ " " ++ said)

/-- An issue in words. -/
def message (issue : Issue τ) : τ := phrase issue.place issue.mismatch.text

end Issue

/-- A value that has been read, or the issues that stood in the way. -/
inductive Checked (τ α : Type)
  | ok (value : α)
  | issues (found : List (Issue τ))

namespace Checked

variable {τ α β : Type}

/-- Fails with one issue. -/
def fail (place : Location τ) (mismatch : Mismatch) : Checked τ α := .issues [⟨place, mismatch⟩]

def map (f : α → β) : Checked τ α → Checked τ β
  | .ok value => .ok (f value)
  | .issues found => .issues found

/-- Combines two values, or collects the issues of both. -/
def ap : Checked τ (α → β) → Checked τ α → Checked τ β
  | .ok f, .ok value => .ok (f value)
  | .ok _, .issues found => .issues found
  | .issues found, .ok _ => .issues found
  | .issues found, .issues more => .issues (found ++ more)

instance : Applicative (Checked τ) where
  pure := .ok
  map := map
  seq f value := f.ap (value ())

def toExcept : Checked τ α → Except (List (Issue τ)) α
  | .ok value => .ok value
  | .issues found => .error found

end Checked

end LivePage
