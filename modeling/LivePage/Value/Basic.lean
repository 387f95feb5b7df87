/-
The values of documents, states and payloads: null, booleans, integers of
any size, doubles, texts, lists, and objects whose members keep their
order. Texts are strings unless another type of texts is named.

* `Value.obj?`, `Value.str?`: the parts of a value that is an object or a
  text;
* `Value.isTruthy`: whether a value counts as present where an empty one
  does not.
-/
import LivePage.Double.Basic
import LivePage.Value.Members

namespace LivePage

inductive Value (τ : Type := String)
  | null
  | bool (b : Bool)
  | int (n : Int)
  | num (x : Double)
  | str (s : τ)
  | arr (items : List (Value τ))
  | obj (members : List (τ × Value τ))

namespace Value

section

variable {τ : Type}

def obj? : Value τ → Option (Members (Value τ) τ)
  | .obj members => some members
  | _ => none

def str? : Value τ → Option τ
  | .str s => some s
  | _ => none

def isNull : Value τ → Bool
  | .null => true
  | _ => false

/-- Whether the value is neither null nor a boolean, a list or an object. -/
def isNumberOrText : Value τ → Bool
  | .int _ | .num _ | .str _ => true
  | _ => false

end

/-- Whether a value counts: null, false, zero, and empty texts, lists and objects do
not. -/
def isTruthy : Value → Bool
  | .null => false
  | .bool b => b
  | .int n => n != 0
  | .num x => !x.isZero
  | .str s => !s.isEmpty
  | .arr items => !items.isEmpty
  | .obj members => !members.isEmpty

/-- A text that may be missing, which is null then. -/
def textOrNull (s : Option String) : Value := (s.map Value.str).getD .null

/-- The member of an object under a name; other values have none. -/
def member? (v : Value) (key : String) : Option Value := v.obj?.bind (·.get? key)

end Value

end LivePage
