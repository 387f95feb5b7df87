/-
The nesting of values. A value stands at a depth, and the elements and
members of a container stand one deeper.

* `Value.excessDepth?`: the first depth met, container before contents,
  that exceeds a limit;
* `Value.nesting`: how many containers stand around the deepest value.
-/
import LivePage.Value.Basic

namespace LivePage.Value

variable {τ : Type}

mutual

/-- The first depth above `limit` in a value that stands at depth `depth`. -/
def excessDepth? (limit depth : Int) (v : Value τ) : Option Int :=
  if depth > limit then some depth
  else match v with
    | .arr items => excessOfItems? limit (depth + 1) items
    | .obj members => excessOfMembers? limit (depth + 1) members
    | _ => none
  termination_by structural v

def excessOfItems? (limit depth : Int) : List (Value τ) → Option Int
  | [] => none
  | v :: rest => v.excessDepth? limit depth <|> excessOfItems? limit depth rest
  termination_by structural items => items

def excessOfMembers? (limit depth : Int) : List (τ × Value τ) → Option Int
  | [] => none
  | (_, v) :: rest => v.excessDepth? limit depth <|> excessOfMembers? limit depth rest
  termination_by structural members => members

end

mutual

/-- How many containers are nested in one another: none in a plain value, one in an empty
container. -/
def nesting : Value τ → Nat
  | .arr items => nestingOfItems items + 1
  | .obj members => nestingOfMembers members + 1
  | _ => 0
  termination_by structural v => v

def nestingOfItems : List (Value τ) → Nat
  | [] => 0
  | v :: rest => max v.nesting (nestingOfItems rest)
  termination_by structural items => items

def nestingOfMembers : List (τ × Value τ) → Nat
  | [] => 0
  | (_, v) :: rest => max v.nesting (nestingOfMembers rest)
  termination_by structural members => members

end

end LivePage.Value
