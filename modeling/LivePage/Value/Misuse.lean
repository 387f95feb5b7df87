/-
Values used as what they are not. What is put together without checks may
hold any value anywhere, and the first use that a value does not admit ends
the work.

* `Misuse.message`: what is said about a misuse;
* `Value.membersOrNone`, `Value.mapping`, `Value.pairs`: three ways to take
  a value for an object, which say different things about one that is none.
-/
import LivePage.Value.Basic

namespace LivePage

/-- The name of the kind of a value. -/
def Value.kindName : Value → String
  | .null => "NoneType"
  | .bool _ => "bool"
  | .int _ => "int"
  | .num _ => "float"
  | .str _ => "str"
  | .arr _ => "list"
  | .obj _ => "dict"

/-- A use that a value does not admit. -/
inductive Misuse
  /-- A part is asked for that the thing has not. -/
  | lacks (kind part : String)
  /-- It is to be spread like an object. -/
  | notMapping (kind : String)
  /-- It is to be joined with texts, from position 0 on. -/
  | notText (position : Nat) (kind : String)
  /-- It is to be looked up under. -/
  | notKey (kind : String)
  /-- It is to be gone through. -/
  | notIterable (kind : String)
  /-- An element of a list of pairs is no list. -/
  | notList (position : Nat)
  /-- An element of a list of pairs has another length than 2. -/
  | notPair (position length : Nat)
deriving DecidableEq

def Misuse.message : Misuse → String
  | .lacks kind part => s!"'{kind}' object has no attribute '{part}'"
  | .notMapping kind => s!"'{kind}' object is not a mapping"
  | .notText position kind => s!"sequence item {position}: expected str instance, {kind} found"
  | .notKey kind => s!"unhashable type: '{kind}'"
  | .notIterable kind => s!"'{kind}' object is not iterable"
  | .notList position =>
    s!"cannot convert dictionary update sequence element #{position} to a sequence"
  | .notPair position length =>
    s!"dictionary update sequence element #{position} has length {length}; 2 is required"

namespace Value

/-- A value of which a part is asked for that it has not. -/
def lacking {α : Type} (v : Value) (part : String) : Except Misuse α :=
  .error (.lacks v.kindName part)

/-- The text that a value is; of other values `part` is asked for. -/
def textHaving (v : Value) (part : String) : Except Misuse String :=
  match v with
  | .str s => .ok s
  | v => v.lacking part

/-- The members of an object; of other values `part` is asked for. -/
def membersHaving (v : Value) (part : String) : Except Misuse (Members Value) :=
  match v with
  | .obj members => .ok members
  | v => v.lacking part

/-- The members of an object, none for a value that does not count. -/
def membersOrNone (v : Value) : Except Misuse (Members Value) :=
  if v.isTruthy then v.membersHaving "items" else .ok []

/-- The members of an object that is spread, none for a value that does not count. -/
def mapping (v : Value) : Except Misuse (Members Value) :=
  match v with
  | .obj members => .ok members
  | v => if v.isTruthy then .error (.notMapping v.kindName) else .ok []

/-- Looks something up under a value. Lists and objects cannot be looked up under. -/
def key (v : Value) : Except Misuse Value :=
  match v with
  | .arr _ | .obj _ => .error (.notKey v.kindName)
  | v => .ok v

/-- The elements of a text or a list, and the names of an object. -/
def elements (v : Value) : Except Misuse (List Value) :=
  match v with
  | .str s => .ok (s.toList.map fun c => .str (String.ofList [c]))
  | .arr items => .ok items
  | .obj members => .ok (members.map fun (name, _) => .str name)
  | v => .error (.notIterable v.kindName)

/-- The member that an element of a list of pairs is. A name that is no text does not count. -/
def pair? (position : Nat) (v : Value) : Except Misuse (Option (String × Value)) :=
  match v.elements with
  | .error _ => .error (.notList position)
  | .ok [name, value] =>
    match name.key with
    | .error e => .error e
    | .ok name => .ok (name.str?.map fun name => (name, value))
  | .ok items => .error (.notPair position items.length)

/-- The members that the elements of a list of pairs are, from a position on. -/
def pairsFrom (position : Nat) : List Value → Except Misuse (Members Value)
  | [] => .ok []
  | v :: rest => do
    let member ← v.pair? position
    let members ← pairsFrom (position + 1) rest
    return member.toList ++ members

/-- The members of an object, or those that the elements of a list of pairs are. -/
def pairs (v : Value) : Except Misuse (Members Value) :=
  match v with
  | .obj members => .ok members
  | v => v.elements >>= pairsFrom 0

end Value

end LivePage
