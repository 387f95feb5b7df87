/-
Inspection of a value that is meant to be a document. It goes through the
whole value and collects every defect, with its place.

* `inspectDocument`: the defects of a value, in reading order;
* `Defect.message`: a defect in words.
-/
import LivePage.Document.Location
import LivePage.Document.Vocabulary
import LivePage.Value.Basic

namespace LivePage

/-- What is wrong with a part of a document. -/
inductive Problem
  | documentNotObject
  | required
  | notArray
  | notObject
  | nodeNotObject
  | notText
  | emptyId
  | unknownType
  | notTextOrNumber
  | notAmong (words : List String)
  | notNonNegative
  | notScalarOrBinding
deriving DecidableEq

def Problem.text : Problem → String
  | .documentNotObject => "must be an object"
  | .required => "is required"
  | .notArray => "must be array"
  | .notObject => "must be object"
  | .nodeNotObject => "should be an object"
  | .notText => "must be string"
  | .emptyId => "must be non-empty string"
  | .unknownType => "invalid"
  | .notTextOrNumber => "must be string or number"
  | .notAmong words => "must be one of " ++ ", ".intercalate words
  | .notNonNegative => "must be a non-negative number"
  | .notScalarOrBinding => "must be a scalar or binding"

/-- A problem and its place. -/
structure Defect (τ : Type := String) where
  place : Location τ
  problem : Problem
deriving DecidableEq

variable {τ : Type}

/-- A defect in words: the place and the problem. -/
def Defect.message [DecidableEq τ] [Textual τ] (d : Defect τ) : τ :=
  d.place.text ++ " " ++ d.problem.text

namespace Inspection

/-- One defect if the condition fails. -/
def require (holds : Bool) (place : Location τ) (problem : Problem) : List (Defect τ) :=
  if holds then [] else [⟨place, problem⟩]

def isText (v : Value τ) : Bool := v.str?.isSome

def isNonNegative : Value τ → Bool
  | .int n => 0 ≤ n
  | .num (.nan _) => false
  | .num x => !x.isNegative
  | _ => false

def isScalar : Value τ → Bool
  | .arr _ | .obj _ => false
  | _ => true

variable [DecidableEq τ] [Textual τ]

/-- The defects of a member that is present and not null. -/
def ofPresent (ms : Members (Value τ) τ) (key : String) (inspect : Value τ → List (Defect τ)) :
    List (Defect τ) :=
  match ms.get? key with
  | none | some .null => []
  | some v => inspect v

/-- The word that a value is, as a member of a set of words. -/
def wordOf? (α : Type) [Vocabulary α] (v : Value τ) : Option α :=
  v.str?.bind (Vocabulary.ofText? α)

/-- A text, if the member is present. -/
def textMember (place : Location τ) (ms : Members (Value τ) τ) (key : String) : List (Defect τ) :=
  ofPresent ms key fun v => require (isText v) (place.field key) .notText

/-- One of a set of words, if the member is present. -/
def wordMember (α : Type) [Vocabulary α] (place : Location τ) (ms : Members (Value τ) τ)
    (key : String) : List (Defect τ) :=
  ofPresent ms key fun v =>
    require (wordOf? α v).isSome (place.field key) (.notAmong (Vocabulary.words α))

/-- An object whose members pass an inspection of their own, if the member is present. -/
def mapMember (place : Location τ) (ms : Members (Value τ) τ) (key : String)
    (inspect : Location τ → Value τ → List (Defect τ)) : List (Defect τ) :=
  ofPresent ms key fun
    | .obj entries => entries.flatMap fun (name, v) => inspect ((place.field key).field name) v
    | _ => [⟨place.field key, .notObject⟩]

/-- A map of texts, if the member is present. -/
def textMapMember (place : Location τ) (ms : Members (Value τ) τ) (key : String) :
    List (Defect τ) :=
  mapMember place ms key fun place v => require (isText v) place .notText

/-! ### Actions and configurations -/

/-- A scalar, or an object that names a component and perhaps a path. -/
def payloadEntry (place : Location τ) (v : Value τ) : List (Defect τ) :=
  if isScalar v then []
  else match v with
    | .obj ms =>
      match Members.get? ms "component" with
      | some (.str _) => textMember place ms "path"
      | _ => [⟨place, .notScalarOrBinding⟩]
    | _ => [⟨place, .notScalarOrBinding⟩]

def action (place : Location τ) : Value τ → List (Defect τ)
  | .obj ms =>
    require ((Members.get? ms "type").bind (wordOf? ActionKind)).isSome
        (place.field "type") .unknownType ++
      textMember place ms "endpoint" ++
      wordMember Method place ms "method" ++
      textMapMember place ms "headers" ++
      textMember place ms "successMessage" ++
      textMember place ms "errorMessage" ++
      mapMember place ms "payload" payloadEntry
  | _ => [⟨place, .nodeNotObject⟩]

def config (place : Location τ) : Value τ → List (Defect τ)
  | .obj ms =>
    textMember place ms "authToken" ++
      textMapMember place ms "endpoints" ++
      textMapMember place ms "headers"
  | _ => [⟨place, .notObject⟩]

/-! ### Components -/

/-- What every component needs: an id, a known type, and well-formed attributes. -/
def attributes (place : Location τ) (ms : Members (Value τ) τ) : List (Defect τ) :=
  let id := (ms.get? "id").bind Value.str?
  require (id.any (· != Textual.lit "")) (place.field "id") .emptyId ++
    require ((ms.get? "type").bind (wordOf? ComponentKind)).isSome (place.field "type")
      .unknownType ++
    mapMember place ms "style" (fun place v => require v.isNumberOrText place .notTextOrNumber) ++
    textMember place ms "className"

/-- A text that must be there. -/
def requiredText (place : Location τ) (ms : Members (Value τ) τ) (key : String) : List (Defect τ) :=
  require ((ms.get? key).any isText) (place.field key) .notText

def arrangement (place : Location τ) (ms : Members (Value τ) τ) : List (Defect τ) :=
  wordMember Direction place ms "direction" ++
    ofPresent ms "gap" (fun v => require (isNonNegative v) (place.field "gap") .notNonNegative) ++
    wordMember Alignment place ms "align"

mutual

def component (place : Location τ) : Value τ → List (Defect τ)
  | .obj ms =>
    attributes place ms ++
      match (Members.get? ms "type").bind (wordOf? ComponentKind) with
      | none => []
      | some .text => requiredText place ms "text"
      | some .input =>
        textMember place ms "placeholder" ++ textMember place ms "value" ++
          textMember place ms "name"
      | some .button =>
        requiredText place ms "text" ++ ofPresent ms "action" (action (place.field "action"))
      | some .container =>
        arrangement place ms ++ children (place.field "children") ms
  | _ => [⟨place, .nodeNotObject⟩]
  termination_by structural v => v

/-- The defects below the first member named `children`, which is at `place`. -/
def children (place : Location τ) : List (τ × Value τ) → List (Defect τ)
  | [] => []
  | (key, v) :: rest =>
    if key == "children" then
      match v with
      | .null => []
      | .arr items => components place 0 items
      | _ => [⟨place, .notArray⟩]
    else children place rest
  termination_by structural ms => ms

/-- The defects of a list of components from number `n` on. -/
def components (place : Location τ) (n : Nat) : List (Value τ) → List (Defect τ)
  | [] => []
  | v :: rest => component (place.element n) v ++ components place (n + 1) rest
  termination_by structural items => items

end

end Inspection

open Inspection in
/-- The defects of a value that is meant to be a document. -/
def inspectDocument [DecidableEq τ] [Textual τ] : Value τ → List (Defect τ)
  | .obj ms =>
    (match Members.get? ms "root" with
      | none | some .null => [⟨[.name "root"], .required⟩]
      | some v => component [.name "root"] v) ++
    ofPresent ms "components" (fun
      | .arr items => components [.name "components"] 0 items
      | _ => [⟨[.name "components"], .notArray⟩]) ++
    ofPresent ms "config" (config [.name "config"]) ++
    textMember [] ms "name" ++
    textMember [] ms "version"
  | _ => [⟨[.name "document"], .documentNotObject⟩]

end LivePage
