/-
Pages as mirrors of documents. The page of a component has one element for each
component of the tree, in the same place, with the tag and the events of its kind. The
states of components come in only as the values of inputs.

* `Element.ReactsTo`, `Element.Represents`: what an element has of its component;
* `Mirrors`: a tree of elements of the same shape as a tree of components;
* `Component.element_congr`, `Component.render_congr`: what elements and pages take from
  the store;
* `Document.Pictured`, `page_pictured`: the page of a document.
-/
import LivePage.Proofs.Display

namespace LivePage

/-! ### Elements -/

namespace Element

/-- An element reacts to one event, with the calls to which its value leads, and to no other. -/
def ReactsTo (e : Element) (event : String) (calls : Value → List Call) : Prop :=
  ∀ name v, e.fire name v = if name = event then some (calls v) else none

/-- An element stands for a component: it has its id, and the tag and the events of its kind. An
input writes its new value to the store, and a button runs its action if it has one. -/
inductive Represents (e : Element) : Component → Prop
  | container {a : Attributes} {arrangement : Arrangement} {children : Field (List Component)}
      (hid : e.id = a.id) (htag : e.tag = "div") (htext : e.text = none)
      (hquiet : ∀ name v, e.fire name v = none) :
      Represents e (.container a arrangement children)
  | text {a : Attributes} {content : String} (hid : e.id = a.id) (htag : e.tag = "span")
      (htext : e.text = some content) (hquiet : ∀ name v, e.fire name v = none) :
      Represents e (.text a content)
  | input {a : Attributes} {entry : Entry} (hid : e.id = a.id) (htag : e.tag = "input")
      (htext : e.text = none)
      (hchange : e.ReactsTo "change" fun v => [.write a.id [("value", v)]]) :
      Represents e (.input a entry)
  | button {a : Attributes} {content : String} {action : Field Action} (hid : e.id = a.id)
      (htag : e.tag = "button") (htext : e.text = some content)
      (hclick : e.ReactsTo "click" fun _ => action.value?.toList.map .dispatch) :
      Represents e (.button a content action)

/-- An element with a reaction reacts to its event. -/
lemma reactsTo_event {e : Element} {calls : Value → List Call} (reaction : Reaction)
    (hreaction : e.reaction = some reaction)
    (hcalls : ∀ v, e.fire reaction.event v = some (calls v)) :
    e.ReactsTo reaction.event calls := by
  intro name v
  by_cases hname : name = reaction.event
  · rw [if_pos hname, hname, hcalls]
  · have hevent : (reaction.event != name) = true := bne_iff_ne.mpr (Ne.symm hname)
    rw [if_neg hname, fire, hreaction]
    exact if_pos hevent

end Element

/-- A tree of elements has the shape of a tree of components: an element for each of them, and
inside it those of its children, in order. -/
inductive Mirrors : Component → Node → Prop
  | node {c : Component} {e : Element} {ns : List Node} (hrepresents : e.Represents c)
      (hchildren : List.Forall₂ Mirrors c.children ns) : Mirrors c (.mk e ns)

namespace Component

variable {store other : Store} {c : Component}

lemma element_represents (store : Store) (c : Component) : (c.element store).Represents c := by
  cases c with
  | container a arrangement children => exact .container rfl rfl rfl fun _ _ => rfl
  | text a content => exact .text rfl rfl rfl fun _ _ => rfl
  | input a entry =>
      exact .input rfl rfl rfl (Element.reactsTo_event .change rfl fun _ => rfl)
  | button a content action =>
      refine .button rfl rfl rfl (Element.reactsTo_event (.click action.value?) rfl ?_)
      intro v
      rw [Element.fire, element]
      rcases action.value? with _ | act <;> rfl

/-- The page of a tree of components has its shape. -/
lemma mirrors_render (store : Store) (c : Component) : Mirrors c (c.render store) := by
  induction c using treeInd with
  | step c ih =>
      rw [render_eq]
      refine .node (element_represents store c) ?_
      rw [List.forall₂_map_right_iff, List.forall₂_same]
      exact ih

/-! ### Pages for two stores -/

/-- The element of a component depends on no other state than the value of its own input. -/
lemma element_congr
    (hvalue : c.kind = .input → storedValue? store c.id = storedValue? other c.id) :
    c.element store = c.element other := by
  cases c with
  | input a entry =>
      have hvalue : storedValue? store a.id = storedValue? other a.id := hvalue rfl
      rw [element, element, hvalue]
  | _ => rfl

/-- Pages are the same if their elements are. -/
lemma render_congr (helement : ∀ part ∈ c.nodes, part.element store = part.element other) :
    c.render store = c.render other := by
  induction c using treeInd with
  | step c ih =>
      rw [nodes_eq, List.forall_mem_cons] at helement
      have hchildren : ∀ child ∈ c.children, child.render store = child.render other :=
        fun child hchild => ih child hchild fun part hpart =>
          helement.2 part (List.mem_flatMap.mpr ⟨child, hchild, hpart⟩)
      rw [render_eq, render_eq, helement.1, List.map_congr_left hchildren]

/-- The element in a place of the page is that of the component in the same place. -/
lemma element_walk (store : Store) (c : Component) (i : ℕ) :
    (c.render store).walk[i]?.map Node.element = c.nodes[i]?.map (element store) := by
  rw [← List.getElem?_map, ← List.getElem?_map, walk_render]

end Component

/-! ### Documents -/

/-- What there is to say of the page of a document. -/
structure Document.Pictured (d : Document) (store : Store) : Prop where
  /-- It has an element for each component, in its place. -/
  mirrors : Mirrors d.root (d.root.render store)
  /-- In reading order it has the ids of the document. -/
  ids : (d.root.render store).walk.map Node.id = d.root.nodes.map Component.id
  /-- With another store the element in a place is the same, unless it is that of an input with
  another value. -/
  element_eq : ∀ (other : Store) (i : ℕ) (c : Component), d.root.nodes[i]? = some c →
    (c.kind = .input → storedValue? store c.id = storedValue? other c.id) →
      (d.root.render store).walk[i]?.map Node.element =
        (d.root.render other).walk[i]?.map Node.element
  /-- With the same values of all inputs the page is the same. -/
  page_eq : ∀ other : Store,
    (∀ id ∈ d.inputs.keys, storedValue? store id = storedValue? other id) →
      d.root.render store = d.root.render other

/-- **The page of a document** mirrors its tree of components, and depends on the store only in the
values of its inputs, each in its own place. -/
theorem page_pictured (d : Document) (store : Store) : d.Pictured store where
  mirrors := d.root.mirrors_render store
  ids := by
    have hids := congrArg (List.map Element.id) (d.root.walk_render store)
    rw [List.map_map, List.map_map] at hids
    rw [show Node.id = Element.id ∘ Node.element from rfl, hids]
    exact List.map_congr_left fun c _ => c.element_id store
  element_eq other i c hc hvalue := by
    rw [Component.element_walk, Component.element_walk, hc]
    exact congrArg some (Component.element_congr hvalue)
  page_eq other hvalues := by
    refine Component.render_congr fun part hpart => Component.element_congr fun hkind => ?_
    cases part with
    | input a entry =>
        exact hvalues a.id (Document.mem_keys_inputs_iff.mpr ⟨a, entry, hpart, rfl⟩)
    | container | text | button => cases hkind

end LivePage
