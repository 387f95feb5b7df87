/-
Pages and the components that they show. The page of a component is a tree of the
same form, with the element of each component in its place.

* `Component.children`, `Component.treeInd`: trees of components, as trees;
* `Component.walk_render`, `Component.find?_render`: reading order is the same in
  a tree of components and in its page;
* `Session.Shows`: whether the first node with an id has a given tag;
* `Session.node_eq_ok_iff`: a node is found exactly if it is shown.
-/
import LivePage.Proofs.Inputs
import LivePage.Session

namespace LivePage

namespace Component

/-! ### Trees of components -/

/-- What is inside a component. -/
def children : Component → List Component
  | .container _ _ (.given children) => children
  | _ => []

/-- Induction over trees: a property holds of every component once it is inherited from what is
inside. -/
@[elab_as_elim]
theorem treeInd {P : Component → Prop} (step : ∀ c, (∀ child ∈ c.children, P child) → P c)
    (c : Component) : P c := by
  induction c using ind with
  | container a r children ih =>
      refine step _ fun child hchild => ?_
      rcases children with _ | _ | cs
      · exact absurd hchild List.not_mem_nil
      · exact absurd hchild List.not_mem_nil
      · exact ih cs rfl child hchild
  | _ => exact step _ nofun

lemma nodesOfAll_eq_flatMap (cs : List Component) : nodesOfAll cs = cs.flatMap nodes := by
  induction cs with
  | nil => rfl
  | cons c rest ih => rw [nodesOfAll, ih, List.flatMap_cons]

lemma nodes_eq (c : Component) : c.nodes = c :: c.children.flatMap nodes := by
  rcases c with ⟨a, r, _ | _ | cs⟩ | _ | _ | _ <;> simp [nodes, children, nodesOfAll_eq_flatMap]

lemma renderAll_eq_map (store : Store) (cs : List Component) :
    renderAll store cs = cs.map (render store) := by
  induction cs with
  | nil => rfl
  | cons c rest ih => rw [renderAll, ih, List.map_cons]

lemma render_eq (store : Store) (c : Component) :
    c.render store = .mk (c.element store) (c.children.map (render store)) := by
  rcases c with ⟨a, r, _ | _ | cs⟩ | _ | _ | _ <;> simp [render, children, renderAll_eq_map]

end Component

/-! ### Reading order -/

lemma Node.walkAll_eq_flatMap (ns : List Node) : walkAll ns = ns.flatMap walk := by
  induction ns with
  | nil => rfl
  | cons n rest ih => rw [walkAll, ih, List.flatMap_cons]

namespace Component

@[simp]
lemma element_id (store : Store) (c : Component) : (c.element store).id = c.id := by
  cases c <;> rfl

@[simp]
lemma element_tag (store : Store) (c : Component) : (c.element store).tag = c.kind.tag := by
  cases c <;> rfl

/-- A page has the elements of the components, in the same order. -/
lemma walk_render (store : Store) (c : Component) :
    (c.render store).walk.map Node.element = c.nodes.map (element store) := by
  induction c using treeInd with
  | step c ih =>
      rw [render_eq, nodes_eq, Node.walk, Node.walkAll_eq_flatMap, List.map_cons, List.map_cons,
        List.map_flatMap, List.map_flatMap, List.flatMap_map]
      exact congrArg _ (List.flatMap_congr ih)

/-- The first node with an id shows the first component with that id. -/
lemma find?_render (store : Store) (c : Component) (id : String) :
    ((c.render store).find? id).map Node.element =
      (c.nodes.find? (·.id == id)).map (element store) := by
  have hwalk := congrArg (List.find? fun e : Element => e.id == id) (walk_render store c)
  rw [List.find?_map, List.find?_map] at hwalk
  have hid : ((fun e : Element => e.id == id) ∘ element store) = (·.id == id) :=
    funext fun c => by simp
  rwa [hid] at hwalk

end Component

/-! ### Nodes of a session -/

namespace Session

variable {s : Session} {id tag : String} {n : Node}

/-- The first node of the page with an id has a tag. -/
def Shows (s : Session) (id tag : String) : Prop := ∃ n, s.page.find? id = some n ∧ n.tag = tag

lemma node_eq_ok_iff : s.node id tag = .ok n ↔ s.page.find? id = some n ∧ n.tag = tag := by
  rw [node]
  rcases s.page.find? id with _ | found
  · simp
  · by_cases htag : found.tag = tag
    · simp only [htag, beq_self_eq_true, if_true, Except.ok.injEq, Option.some.injEq]
      exact ⟨fun h => ⟨h, h ▸ htag⟩, fun h => h.1⟩
    · simp only [beq_iff_eq, htag, if_false, reduceCtorEq, Option.some.injEq, false_iff]
      rintro ⟨rfl, h⟩
      exact htag h

lemma node_eq_error_iff {e : LookupError} :
    s.node id tag = .error e ↔ ¬s.Shows id tag ∧ e = ⟨tag, id⟩ := by
  rcases hnode : s.node id tag with cause | n
  · have hshows : ¬s.Shows id tag := by
      rintro ⟨n, hn⟩
      rw [node_eq_ok_iff.mpr hn] at hnode
      cases hnode
    have hcause : cause = ⟨tag, id⟩ := by
      rw [node] at hnode
      split at hnode
      · split at hnode <;> cases hnode
        rfl
      · cases hnode
        rfl
    rw [and_iff_right hshows, hcause, Except.error.injEq, eq_comm]
  · have hshows : s.Shows id tag := ⟨n, node_eq_ok_iff.mp hnode⟩
    simp [hshows]

lemma id_of_find? (hfind : s.page.find? id = some n) : n.id = id := by
  simpa using List.find?_some hfind

end Session

end LivePage
