/-
The states of components by their ids. A store is never changed: writing
gives a new one, in which all other states are as before.

* `Store.read`, `Store.write`, `Store.merge`: the operations;
* `Store.ofDocument`: the store that a document starts with;
* `read_write_self`, `read_write_of_ne`: a write is seen under its id, and
  nowhere else.
-/
import LivePage.Document.Basic
import LivePage.Value.Equality
import LivePage.Value.Literal

namespace LivePage

/-- The states of components, in the order in which their ids were first written. -/
abbrev Store := Members Value

namespace Store

/-- The state of a component, none when it has none. -/
def read (store : Store) (id : String) : Option Value := Members.get? store id

/-- Replaces the state of a component. -/
def write (store : Store) (id : String) (state : Value) : Store := Members.put store id state

@[simp]
theorem read_write_self (store : Store) (id : String) (state : Value) :
    (store.write id state).read id = some state :=
  Members.get?_put_self store id state

theorem read_write_of_ne (store : Store) {id other : String} (state : Value) (h : other ≠ id) :
    (store.write id state).read other = store.read other :=
  Members.get?_put_of_ne store state h

/-- Sets some members of the state of a component. A state that is no object counts as the
empty one. -/
def merge (store : Store) (id : String) (changes : Members Value) : Store :=
  let before : Members Value := ((store.read id).bind Value.obj?).getD []
  store.write id (.obj (before.putAll changes))

/-- The state that an input starts with: its declared value, or the empty text. -/
def seed (entry : Entry) : Value := .obj [("value", .str (entry.value.value?.getD ""))]

/-- Writes the starting state of a component, if it is an input. -/
def plant (store : Store) : Component → Store
  | .input attributes entry => store.write attributes.id (seed entry)
  | _ => store

/-- The store that a document starts with. It has a state for each input below the root, and
of two inputs with one id the later one counts. -/
def ofDocument (d : Document) : Store := d.root.nodes.foldl plant []

/-- Whether two stores agree, in any order. -/
def agrees (store other : Store) : Bool := Value.agrees (.obj store) (.obj other)

/-- A store in running text, if its integers are not too long to be written. -/
def literal? (store : Store) : Except Json.WriteError String :=
  (Value.literal? (.obj store)).map fun text => s!"Store({text})"

end Store

end LivePage
