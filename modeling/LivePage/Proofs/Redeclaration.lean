/-
Documents in which inputs declare other values. Nothing but the first store
changes with them, as long as inputs show their states.

* `Document.redeclared`: the document that declares the values of some edits;
* `Store.ofDocument_redeclared`: its first store, one edit after the other;
* `Store.Covers`: whether a store has a value for every input;
* `Component.render_redeclared`: a store that has makes declared values invisible.
-/
import LivePage.Proofs.Display

namespace LivePage

/-- The value that an input is given last. -/
def lastValue? (edits : List (String × String)) (id : String) : Option String :=
  Members.get? edits.reverse id

/-- An input that declares the value it is given last. -/
def Entry.redeclared (edits : List (String × String)) (id : String) (e : Entry) : Entry :=
  { e with value := ((lastValue? edits id).map Field.given).getD e.value }

mutual

/-- A component in which every input declares the value it is given last. -/
def Component.redeclared (edits : List (String × String)) : Component → Component
  | .container a r (.given children) =>
    .container a r (.given (Component.allRedeclared edits children))
  | .input a e => .input a (e.redeclared edits a.id)
  | c => c
  termination_by structural c => c

def Component.allRedeclared (edits : List (String × String)) : List Component → List Component
  | [] => []
  | c :: rest => c.redeclared edits :: Component.allRedeclared edits rest
  termination_by structural cs => cs

end

/-- A document in which every input below the root declares the value it is given last. -/
def Document.redeclared (edits : List (String × String)) (d : Document) : Document :=
  { d with root := d.root.redeclared edits }

variable {edits : List (String × String)} {id value : String}

lemma lastValue?_concat (other : String) :
    lastValue? (edits ++ [(id, value)]) other =
      if other = id then some value else lastValue? edits other := by
  rw [lastValue?, List.reverse_append, List.reverse_singleton, List.singleton_append,
    Members.get?_cons]
  rfl

/-! ### Trees -/

namespace Component

lemma allRedeclared_eq_map (cs : List Component) :
    allRedeclared edits cs = cs.map (redeclared edits) := by
  induction cs with
  | nil => rfl
  | cons c rest ih => rw [allRedeclared, ih, List.map_cons]

lemma children_redeclared (c : Component) :
    (c.redeclared edits).children = c.children.map (redeclared edits) := by
  rcases c with ⟨a, r, _ | _ | cs⟩ | _ | _ | _ <;>
    simp [redeclared, children, allRedeclared_eq_map]

lemma nodes_redeclared (c : Component) :
    (c.redeclared edits).nodes = c.nodes.map (redeclared edits) := by
  induction c using treeInd with
  | step c ih =>
      rw [nodes_eq, nodes_eq, children_redeclared, List.map_cons, List.map_flatMap,
        List.flatMap_map]
      exact congrArg _ (List.flatMap_congr ih)

lemma input?_redeclared (c : Component) :
    (c.redeclared edits).input? = c.input?.map fun m => (m.1, m.2.redeclared edits m.1) := by
  rcases c with ⟨a, r, _ | _ | cs⟩ | _ | _ | _ <;> simp [redeclared, input?]

end Component

lemma Document.inputs_redeclared (d : Document) :
    (d.redeclared edits).inputs = d.inputs.map fun m => (m.1, m.2.redeclared edits m.1) := by
  rw [inputs, inputs, redeclared, Component.nodes_redeclared, List.filterMap_map,
    List.map_filterMap]
  exact List.filterMap_congr fun c _ => c.input?_redeclared

/-! ### The first store -/

namespace Store

lemma keys_ofDocument_redeclared (d : Document) :
    (ofDocument (d.redeclared edits)).keys = (ofDocument d).keys := by
  rw [ofDocument_eq_putAll, ofDocument_eq_putAll]
  refine Members.keys_putAll_congr rfl ?_
  rw [Members.keys_mapValues, Members.keys_mapValues, Document.inputs_redeclared]
  simp [Members.keys, Function.comp_def]

lemma read_ofDocument_redeclared (d : Document) (id : String) :
    (ofDocument (d.redeclared edits)).read id =
      (Members.get? d.inputs.reverse id).map fun e => seed (e.redeclared edits id) := by
  rw [read_ofDocument, Document.inputs_redeclared, ← List.map_reverse]
  exact (congrArg _ (Members.get?_map (Entry.redeclared edits) _ id)).trans (Option.map_map ..)

lemma ofDocument_redeclared_nil (d : Document) :
    ofDocument (d.redeclared []) = ofDocument d := by
  rw [ofDocument_eq_putAll, ofDocument_eq_putAll, Document.inputs_redeclared]
  simp [Entry.redeclared, lastValue?, Members.get?_nil]

lemma exists_last_input {d : Document} (hid : id ∈ d.inputs.keys) :
    ∃ e, Members.get? d.inputs.reverse id = some e := by
  rw [← Members.mem_keys_iff, Members.keys, List.map_reverse, List.mem_reverse]
  exact hid

/-- An edit writes what would be there if its value had been declared. -/
lemma ofDocument_redeclared (d : Document) (hid : id ∈ d.inputs.keys) :
    ofDocument (d.redeclared (edits ++ [(id, value)])) =
      (ofDocument (d.redeclared edits)).write id (.obj [("value", .str value)]) := by
  have hmem : id ∈ (ofDocument (d.redeclared edits)).keys := by
    rw [keys_ofDocument_redeclared]
    exact mem_keys_ofDocument_iff.mpr hid
  have hkeys : (ofDocument (d.redeclared (edits ++ [(id, value)]))).keys =
      ((ofDocument (d.redeclared edits)).write id (.obj [("value", .str value)])).keys := by
    rw [write, Members.keys_put, if_pos hmem, keys_ofDocument_redeclared,
      keys_ofDocument_redeclared]
  refine Members.ext_of_keys hkeys (nodup_keys_ofDocument _) fun other => ?_
  change read _ other = read _ other
  by_cases hother : other = id
  · obtain ⟨e, he⟩ := exists_last_input hid
    rw [hother, read_write_self, read_ofDocument_redeclared, he, Option.map_some]
    simp [Entry.redeclared, lastValue?_concat, seed, Field.value?]
  · rw [read_write_of_ne _ _ hother, read_ofDocument_redeclared, read_ofDocument_redeclared]
    simp [Entry.redeclared, lastValue?_concat, hother]

/-! ### Pages -/

/-- The store has a value for every input of a component. -/
def Covers (store : Store) (c : Component) : Prop :=
  ∀ a e, Component.input a e ∈ c.nodes → (storedValue? store a.id).isSome

lemma storedValue?_eq_of_read {store : Store} {text : String}
    (hread : store.read id = some (.obj [("value", .str text)])) :
    storedValue? store id = some (.str text) := by
  rw [storedValue?, hread]
  rfl

lemma covers_ofDocument (d : Document) : (ofDocument d).Covers d.root := by
  intro a e hinput
  have hid : a.id ∈ d.inputs.keys := Document.mem_keys_inputs_iff.mpr ⟨a, e, hinput, rfl⟩
  obtain ⟨last, hlast⟩ := exists_last_input hid
  have hread := read_ofDocument d a.id
  rw [hlast, Option.map_some] at hread
  rw [storedValue?_eq_of_read hread]
  rfl

lemma Covers.of_child {store : Store} {c child : Component} (hcovers : store.Covers c)
    (hchild : child ∈ c.children) : store.Covers child := by
  intro a e hinput
  refine hcovers a e ?_
  rw [Component.nodes_eq]
  exact List.mem_cons_of_mem _ (List.mem_flatMap.mpr ⟨child, hchild, hinput⟩)

lemma Covers.of_redeclared {store : Store} {c : Component}
    (hcovers : store.Covers (c.redeclared edits)) : store.Covers c := by
  intro a e hinput
  refine hcovers a (e.redeclared edits a.id) ?_
  rw [Component.nodes_redeclared]
  exact List.mem_map.mpr ⟨_, hinput, rfl⟩

/-- A text that is written keeps all inputs covered. -/
lemma Covers.merge {store : Store} {c : Component} (hcovers : store.Covers c) (text : String) :
    (store.merge id (valueChange (.str text))).Covers c := by
  intro a e hinput
  by_cases hid : a.id = id
  · rw [storedValue?, Store.merge, hid, read_write_self]
    simp [Value.member?, Value.obj?, valueChange, Members.putAll]
  · rw [storedValue?, Store.merge, read_write_of_ne _ _ hid]
    exact hcovers a e hinput

end Store

namespace Component

/-- An input that has a state looks the same whatever it declares. -/
lemma element_redeclared {store : Store} {c : Component} (hcovers : store.Covers c) :
    (c.redeclared edits).element store = c.element store := by
  rcases c with ⟨a, r, _ | _ | cs⟩ | _ | ⟨a, e⟩ | _
  case input =>
    have hself : input a e ∈ (input a e).nodes := by simp [nodes]
    obtain ⟨v, hv⟩ := Option.isSome_iff_exists.mp (hcovers a e hself)
    simp [redeclared, element, hv, inputProps, Entry.redeclared]
  all_goals rfl

/-- A page whose inputs have states looks the same whatever they declare. -/
lemma render_redeclared {store : Store} {c : Component} (hcovers : store.Covers c) :
    (c.redeclared edits).render store = c.render store := by
  induction c using treeInd with
  | step c ih =>
      rw [render_eq, render_eq, element_redeclared hcovers, children_redeclared, List.map_map]
      exact congrArg _ (List.map_congr_left fun child hchild =>
        ih child hchild (hcovers.of_child hchild))

end Component

end LivePage
