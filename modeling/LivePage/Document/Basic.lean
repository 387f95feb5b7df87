/-
Documents: a tree of components with the configuration of the requests
that its buttons send. An optional field remembers whether it was left
out, null, or given, so that a document can be written as it was read.

* `Component`, `Action`, `Config`, `Document`: the parts of a document;
* `Component.nodes`: a component and its descendants in reading order.
-/
import LivePage.Document.Vocabulary
import LivePage.Value.Basic

namespace LivePage

/-- An optional field. -/
inductive Field (α : Type)
  | absent
  | null
  | given (value : α)
deriving DecidableEq

/-- The value of a field that is given. -/
def Field.value? {α : Type} : Field α → Option α
  | .given value => some value
  | _ => none

/-- A reference to the state of a component: the part of it that a dotted path leads to. -/
structure Binding (τ : Type := String) where
  component : τ
  path : τ
deriving DecidableEq

/-- A plain value in a payload. -/
inductive Scalar (τ : Type := String)
  | null
  | bool (b : Bool)
  | int (n : Int)
  | num (x : Double)
  | str (s : τ)
deriving DecidableEq

def Scalar.toValue {τ : Type} : Scalar τ → Value τ
  | .null => .null
  | .bool b => .bool b
  | .int n => .int n
  | .num x => .num x
  | .str s => .str s

/-- The value of a style property. -/
inductive StyleValue (τ : Type := String)
  | str (s : τ)
  | int (n : Int)
  | num (x : Double)
deriving DecidableEq

def StyleValue.toValue {τ : Type} : StyleValue τ → Value τ
  | .str s => .str s
  | .int n => .int n
  | .num x => .num x

/-- An entry of a payload: a literal, or a reference that is followed when the action runs. -/
inductive PayloadEntry (α : Type) (τ : Type := String)
  | literal (value : α)
  | bound (binding : Binding τ)
deriving DecidableEq

def PayloadEntry.map {α β τ : Type} (f : α → β) : PayloadEntry α τ → PayloadEntry β τ
  | .literal value => .literal (f value)
  | .bound binding => .bound binding

/-- The named entries of a payload. -/
abbrev Payload (α : Type) (τ : Type := String) := Members (PayloadEntry α τ) τ

/-- A payload whose literals are plain values, as one whose literals may be any values. -/
def Payload.widen {τ : Type} (payload : Payload (Scalar τ) τ) : Payload (Value τ) τ :=
  payload.mapValues (PayloadEntry.map Scalar.toValue)

/-- What a button does: it logs its payload, or sends it to an endpoint. -/
structure Action (τ : Type := String) where
  kind : ActionKind
  endpoint : Field τ
  method : Field Method
  headers : Field (Members τ τ)
  payload : Field (Payload (Scalar τ) τ)
  successMessage : Field τ
  errorMessage : Field τ
deriving DecidableEq

/-- What all components have. -/
structure Attributes (τ : Type := String) where
  id : τ
  style : Field (Members (StyleValue τ) τ)
  className : Field τ
deriving DecidableEq

/-- How a container arranges its children. -/
structure Arrangement where
  direction : Field Direction
  gap : Field Double
  align : Field Alignment
deriving DecidableEq

/-- The texts of an input. -/
structure Entry (τ : Type := String) where
  placeholder : Field τ
  value : Field τ
  name : Field τ
deriving DecidableEq

inductive Component (τ : Type := String)
  | container (attributes : Attributes τ) (arrangement : Arrangement)
      (children : Field (List (Component τ)))
  | text (attributes : Attributes τ) (text : τ)
  | input (attributes : Attributes τ) (entry : Entry τ)
  | button (attributes : Attributes τ) (text : τ) (action : Field (Action τ))

namespace Component

variable {τ : Type}

def attributes : Component τ → Attributes τ
  | .container attributes .. => attributes
  | .text attributes _ => attributes
  | .input attributes _ => attributes
  | .button attributes .. => attributes

def id (c : Component τ) : τ := c.attributes.id

def kind : Component τ → ComponentKind
  | .container .. => .container
  | .text .. => .text
  | .input .. => .input
  | .button .. => .button

mutual

/-- A component and its descendants, each before its children. -/
def nodes : Component τ → List (Component τ)
  | .container attributes arrangement (.given children) =>
    .container attributes arrangement (.given children) :: nodesOfAll children
  | c => [c]
  termination_by structural c => c

def nodesOfAll : List (Component τ) → List (Component τ)
  | [] => []
  | c :: rest => c.nodes ++ nodesOfAll rest
  termination_by structural cs => cs

end

end Component

/-- The configuration that all requests of a document share. -/
structure Config (τ : Type := String) where
  authToken : Field τ
  endpoints : Field (Members τ τ)
  headers : Field (Members τ τ)
deriving DecidableEq

structure Document (τ : Type := String) where
  name : Field τ
  version : Field τ
  config : Field (Config τ)
  root : Component τ
  /-- Components that are checked but never shown. -/
  components : Field (List (Component τ))

end LivePage
