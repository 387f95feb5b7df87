/-
Limits on what is read: the size of a text in bytes, and the nesting of a
value.

* `Json.checkSize`, `Json.checkDepth`: refusal of what exceeds a limit.
-/
import LivePage.Text.Raw
import LivePage.Value.Depth

namespace LivePage.Json

/-- How a limit is exceeded. -/
inductive LimitError
  | tooLarge (name : String) (size : Nat) (limit : Int)
  | tooDeep (depth limit : Int)
deriving DecidableEq

def LimitError.message : LimitError → String
  | .tooLarge name size limit => s!"{name} size {size} bytes exceeds maximum {limit} bytes"
  | .tooDeep depth limit => s!"JSON nesting depth {depth} exceeds maximum {limit}"

/-- Refuses a text of more than `limit` bytes, if it has bytes at all. -/
def checkSize (name : String) (limit : Int) (w : Writing) :
    Except Utf8.Unencodable (Except LimitError Unit) :=
  w.encode.map fun bytes =>
    if (bytes.length : Int) > limit then .error (.tooLarge name bytes.length limit) else .ok ()

/-- Refuses a value, taken to stand at depth `depth`, that reaches below `limit`. -/
def checkDepth {τ : Type} (limit depth : Int) (v : Value τ) : Except LimitError Unit :=
  match v.excessDepth? limit depth with
  | some depth => .error (.tooDeep depth limit)
  | none => .ok ()

end LivePage.Json
