/-
The first page of a document. An input shows the value in its state if there is one, and
otherwise the value that it declares itself; the first store has the states of all inputs, but
only one for inputs with one id. So the two pages part exactly where inputs with one id declare
different values.

* `Entry.declared`: the value that an input declares;
* `Store.read_ofDocument_last`: the first state of an id is that of its last input;
* `Component.shownValue`, `Component.render_eq_iff`: what an input shows, and when two pages
  are the same;
* `Document.Unanimous`: inputs with one id declare one value;
* `Document.Seeded`, `page_seeded`: the first store and the first page.
-/
import LivePage.Proofs.Mirroring
import LivePage.Proofs.Redeclaration

namespace LivePage

/-- The value that an input declares: the empty text when it is left out or null. -/
def Entry.declared (entry : Entry) : String := entry.value.value?.getD ""

variable {d : Document} {id : String} {a : Attributes} {e last : Entry}

/-! ### The first store -/

lemma Document.mem_inputs_iff :
    (id, e) ∈ d.inputs ↔ ∃ a, Component.input a e ∈ d.root.nodes ∧ a.id = id := by
  rw [inputs, List.mem_filterMap]
  constructor
  · rintro ⟨c, hc, hinput⟩
    cases c <;> cases hinput
    exact ⟨_, hc, rfl⟩
  · rintro ⟨a, hinput, rfl⟩
    exact ⟨_, hinput, rfl⟩

namespace Store

/-- Behind the last input with an id there is no other, so that it comes first from behind. -/
lemma get?_reverse_inputs {before after : List Component}
    (hnodes : d.root.nodes = before ++ .input a e :: after)
    (hafter : ∀ other entry, Component.input other entry ∈ after → other.id ≠ a.id) :
    Members.get? d.inputs.reverse a.id = some e := by
  have hnone : Members.get? (after.filterMap Component.input?).reverse a.id = none := by
    rw [Members.get?_eq_none_iff, Members.keys, List.map_reverse, List.mem_reverse, List.mem_map]
    rintro ⟨_, hmem, hid⟩
    obtain ⟨c, hc, hinput⟩ := List.mem_filterMap.mp hmem
    cases c <;> cases hinput
    exact hafter _ _ hc hid
  have hself : Component.input? (.input a e) = some (a.id, e) := rfl
  rw [Document.inputs, hnodes, List.filterMap_append, List.filterMap_cons_some hself,
    List.reverse_append, List.reverse_cons, List.append_assoc, Members.get?_append, hnone,
    Option.none_or, List.singleton_append, Members.get?_cons, if_pos rfl]

/-- Of the inputs with one id, the last one gives the first state. -/
lemma read_ofDocument_last {before after : List Component}
    (hnodes : d.root.nodes = before ++ .input a e :: after)
    (hafter : ∀ other entry, Component.input other entry ∈ after → other.id ≠ a.id) :
    (ofDocument d).read a.id = some (.obj [("value", .str e.declared)]) := by
  rw [read_ofDocument, get?_reverse_inputs hnodes hafter]
  rfl

lemma storedValue?_ofDocument (hlast : Members.get? d.inputs.reverse id = some last) :
    storedValue? (ofDocument d) id = some (.str last.declared) := by
  refine storedValue?_eq_of_read ?_
  rw [read_ofDocument, hlast]
  rfl

end Store

/-! ### Pages -/

namespace Component

variable {store other : Store} {c : Component}

/-- What an input shows. -/
def shownValue (store : Store) (id : String) (entry : Entry) : Value :=
  (storedValue? store id).getD (.str entry.declared)

lemma element_input (store : Store) (a : Attributes) (e : Entry) :
    ((input a e).element store).props =
      [("name", .textOrNull e.name.value?), ("placeholder", .textOrNull e.placeholder.value?),
        ("value", shownValue store a.id e), ("class", classOr inputClass a.classValue),
        ("style", a.styleValue)] := by
  have hdeclared : (if (Value.textOrNull e.value.value?).isNull then .str ""
      else .textOrNull e.value.value?) = Value.str e.declared := by
    rw [Entry.declared]
    cases e.value.value? <;> rfl
  rw [element, inputProps, shownValue, hdeclared]

/-- The element of an input has nothing of the store but the value that is shown. -/
lemma element_input_eq_iff : (input a e).element store = (input a e).element other ↔
    shownValue store a.id e = shownValue other a.id e := by
  have hprops := element_input store a e
  have hother := element_input other a e
  constructor
  · intro helement
    rw [helement, hother] at hprops
    simpa using hprops.symm
  · intro hshown
    rw [← hshown, ← hprops] at hother
    rw [element, element] at hother ⊢
    simpa using hother.symm

/-- Two pages are the same exactly if their elements are. -/
lemma render_eq_iff_element : c.render store = c.render other ↔
    ∀ part ∈ c.nodes, part.element store = part.element other := by
  refine ⟨fun hpage => List.map_inj_left.mp ?_, render_congr⟩
  rw [← walk_render, ← walk_render, hpage]

/-- Two pages are the same exactly if every input shows the same value. -/
lemma render_eq_iff : c.render store = c.render other ↔
    ∀ a e, input a e ∈ c.nodes → shownValue store a.id e = shownValue other a.id e := by
  rw [render_eq_iff_element]
  constructor
  · exact fun helement a e hinput => element_input_eq_iff.mp (helement _ hinput)
  · intro hshown part hpart
    cases part with
    | input a e => exact element_input_eq_iff.mpr (hshown a e hpart)
    | container | text | button => rfl

lemma shownValue_nil (id : String) (e : Entry) : shownValue [] id e = .str e.declared := rfl

lemma shownValue_ofDocument (hlast : Members.get? d.inputs.reverse id = some last) :
    shownValue (.ofDocument d) id e = .str last.declared := by
  rw [shownValue, Store.storedValue?_ofDocument hlast, Option.getD_some]

end Component

/-! ### Documents -/

namespace Document

/-- Inputs below the root that have one id declare one value. -/
def Unanimous (d : Document) : Prop :=
  ∀ id e last, (id, e) ∈ d.inputs → (id, last) ∈ d.inputs → e.declared = last.declared

/-- An id that only one input has is declared once. -/
lemma unanimous_of_nodup (hids : d.inputs.keys.Nodup) : d.Unanimous := by
  intro id e last he hlast
  have hsame := List.inj_on_of_nodup_map hids he hlast rfl
  rw [(Prod.mk.inj hsame).2]

/-- An input has the value in the first store that it declares, if the others of its id do too. -/
lemma Unanimous.shownValue_eq (hunanimous : d.Unanimous) (hinput : (id, e) ∈ d.inputs) :
    Component.shownValue (.ofDocument d) id e = .str e.declared := by
  obtain ⟨last, hlast⟩ := Store.exists_last_input (List.mem_map_of_mem hinput)
  rw [Component.shownValue_ofDocument hlast,
    hunanimous id e last hinput (List.mem_reverse.mp (Members.mem_of_get? hlast))]

/-- The first store shows what no store shows exactly if nothing is declared in two ways. -/
lemma render_ofDocument_eq_iff :
    d.root.render (.ofDocument d) = d.root.render [] ↔ d.Unanimous := by
  rw [Component.render_eq_iff]
  constructor
  · intro hshown id e last he hlast
    -- both of them show the value of the last input with their id
    obtain ⟨final, hfinal⟩ := Store.exists_last_input (List.mem_map_of_mem he)
    have hdeclared : ∀ entry, (id, entry) ∈ d.inputs → entry.declared = final.declared := by
      intro entry hentry
      obtain ⟨a, hinput, rfl⟩ := mem_inputs_iff.mp hentry
      have hsame := hshown a entry hinput
      rw [Component.shownValue_ofDocument hfinal, Component.shownValue_nil] at hsame
      exact (Value.str.inj hsame).symm
    rw [hdeclared e he, hdeclared last hlast]
  · intro hunanimous a e hinput
    exact hunanimous.shownValue_eq (mem_inputs_iff.mpr ⟨a, hinput, rfl⟩)

/-- What there is to say of the first store of a document and of its first page. -/
structure Seeded (d : Document) : Prop where
  /-- The store has a state for the inputs below the root, and for nothing else. -/
  mem_keys_iff : ∀ id, id ∈ (Store.ofDocument d).keys ↔
    ∃ a e, Component.input a e ∈ d.root.nodes ∧ a.id = id
  nodup_keys : (Store.ofDocument d).keys.Nodup
  /-- The state of an id is the value that the last input with it declares. -/
  read_last : ∀ before a e after, d.root.nodes = before ++ .input a e :: after →
    (∀ other entry, Component.input other entry ∈ after → other.id ≠ a.id) →
      (Store.ofDocument d).read a.id = some (.obj [("value", .str e.declared)])
  /-- When no two inputs have one id, the first page is the one that the empty store gives. -/
  page_eq : d.inputs.keys.Nodup → d.root.render (.ofDocument d) = d.root.render []
  /-- In general the two pages are the same exactly if inputs with one id declare one value. -/
  page_eq_iff : d.root.render (.ofDocument d) = d.root.render [] ↔ d.Unanimous
  /-- When no two inputs have one id, each of them shows the value that it declares once the
  document is mounted. -/
  shown : d.inputs.keys.Nodup → ∀ (i : ℕ) a e, d.root.nodes[i]? = some (.input a e) →
    ∃ n, (Session.mount d).page.walk[i]? = some n ∧ n.id = a.id ∧
      n.element.props.get? "value" = some (.str e.declared)

end Document

/-- **The first page of a document** shows what its inputs declare, and if no two of them have one
id, it is the page that they would give without a store. -/
theorem page_seeded (d : Document) : d.Seeded where
  mem_keys_iff _ := Store.mem_keys_ofDocument_iff.trans Document.mem_keys_inputs_iff
  nodup_keys := Store.nodup_keys_ofDocument d
  read_last _ _ _ _ hnodes hafter := Store.read_ofDocument_last hnodes hafter
  page_eq hids := Document.render_ofDocument_eq_iff.mpr (Document.unanimous_of_nodup hids)
  page_eq_iff := Document.render_ofDocument_eq_iff
  shown hids i a e hi := by
    have hinput : (a.id, e) ∈ d.inputs :=
      Document.mem_inputs_iff.mpr ⟨a, List.mem_of_getElem? hi, rfl⟩
    have hwalk := Component.element_walk (.ofDocument d) d.root i
    rw [hi, Option.map_some] at hwalk
    obtain ⟨n, hn, helement⟩ := Option.map_eq_some_iff.mp hwalk
    refine ⟨n, hn, ?_, ?_⟩
    · rw [Node.id, helement]
      exact Component.element_id _ _
    · rw [helement, Component.element_input,
        (Document.unanimous_of_nodup hids).shownValue_eq hinput]
      rfl

/-- Two inputs, one of them inside a container and with null for its value, and a third one that is
not shown. -/
def twoFields : Document where
  name := .absent
  version := .absent
  config := .absent
  root := .container ⟨"form", .absent, .absent⟩ ⟨.absent, .absent, .absent⟩ (.given [
    .input ⟨"name", .absent, .absent⟩ ⟨.absent, .given "Ann", .absent⟩,
    .container ⟨"more", .absent, .absent⟩ ⟨.absent, .absent, .absent⟩ (.given [
      .input ⟨"note", .absent, .absent⟩ ⟨.absent, .null, .absent⟩])])
  components := .given [.input ⟨"spare", .absent, .absent⟩ ⟨.absent, .given "Bob", .absent⟩]

theorem page_seeded_twoFields :
    twoFields.inputs.keys.Nodup ∧
      Store.ofDocument twoFields =
        [("name", .obj [("value", .str "Ann")]), ("note", .obj [("value", .str "")])] ∧
      twoFields.root.render (.ofDocument twoFields) = twoFields.root.render [] := by
  have hids : twoFields.inputs.keys.Nodup := by decide
  exact ⟨hids, rfl, (page_seeded twoFields).page_eq hids⟩

end LivePage
