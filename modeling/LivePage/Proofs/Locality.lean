/-
Each component of a document is inspected by itself. Another value in the place
of one component changes what is said of that component, and leaves what is said
of all others, in its place.

* `Address`: a component of a document, by the children that lead to it;
* `Address.node?`, `Address.replace`: the value at an address, and a document with
  another value there;
* `Inspection.exists_component_graft`: inspection of a component splits around each
  of its descendants;
* `messages_replace`: inspection of a document splits around each of its
  components.
-/
import LivePage.Proofs.Places
import LivePage.Value.Equality

namespace LivePage

/-! ### Components below components -/

namespace Value

/-- The elements of a list; other values have none. -/
def arr? : Value → Option (List Value)
  | .arr items => some items
  | _ => none

/-- The children of a container that lists them. -/
def children? (v : Value) : Option (List Value) :=
  if v.member? "type" = some (.str "container") then (v.member? "children").bind arr? else none

/-- An object in which a member has another value. -/
def withMember (v : Value) (key : String) (w : Value) : Value :=
  match v with
  | .obj ms => .obj (Members.put ms key w)
  | v => v

/-- The descendant that is reached by going from child to child. -/
def descendant? : Value → List ℕ → Option Value
  | v, [] => some v
  | v, j :: steps => (v.children?.bind (·[j]?)).bind (·.descendant? steps)

/-- A component with another value in the place of a descendant. -/
def graft : Value → List ℕ → Value → Value
  | _, [], t => t
  | v, j :: steps, t => v.withMember "children"
      (.arr ((v.children?.getD []).modify j fun child => child.graft steps t))

variable {v : Value} {items : List Value} {key : String}

lemma member_arr?_eq_some_iff :
    (v.member? key).bind arr? = some items ↔
      ∃ ms : Members Value, v = .obj ms ∧ ms.get? key = some (.arr items) := by
  have harr (w : Value) : w.arr? = some items ↔ w = .arr items := by
    cases w <;> simp [arr?]
  cases v <;> simp [member?, obj?, Option.bind_eq_some_iff, harr]

lemma children?_eq_some_iff :
    v.children? = some items ↔ ∃ ms : Members Value, v = .obj ms ∧
      ms.get? "type" = some (.str "container") ∧ ms.get? "children" = some (.arr items) := by
  simp only [children?, Option.ite_none_right_eq_some, member_arr?_eq_some_iff]
  constructor
  · rintro ⟨htype, ms, rfl, hchildren⟩
    exact ⟨ms, rfl, htype, hchildren⟩
  · rintro ⟨ms, rfl, htype, hchildren⟩
    exact ⟨htype, ms, rfl, hchildren⟩

end Value

/-! ### Components of a document -/

/-- Where the components of a document begin: at its root, or at one of those that are listed. -/
inductive Start
  | root
  | listed (n : ℕ)
deriving DecidableEq

/-- A component of a document: a start, and the children from there on. -/
structure Address where
  start : Start
  steps : List ℕ
deriving DecidableEq

namespace Start

def place : Start → Location
  | .root => [.name "root"]
  | .listed n => [.name "components", .index n]

def path : Start → String
  | .root => "root"
  | .listed n => s!"components[{n}]"

/-- The component at which to start. A root that is null is none. -/
def node? (doc : Value) : Start → Option Value
  | .root => (doc.member? "root").filter fun v => !v.isNull
  | .listed n => ((doc.member? "components").bind Value.arr?).bind (·[n]?)

/-- A document in which the component at a start is another one. -/
def modify (doc : Value) (f : Value → Value) : Start → Value
  | .root => doc.withMember "root" (f ((doc.member? "root").getD .null))
  | .listed n => doc.withMember "components"
      (.arr ((((doc.member? "components").bind Value.arr?).getD []).modify n f))

end Start

/-- The place of a descendant: the field and the number of each child that leads to it. -/
def Location.ofSteps (steps : List ℕ) : Location :=
  steps.flatMap fun j => [.name "children", .index j]

namespace Address

/-- The place of a component. -/
def place (a : Address) : Location := a.start.place ++ Location.ofSteps a.steps

/-- The path of a component, as it shows in messages. -/
def path (a : Address) : String :=
  a.start.path ++ String.join (a.steps.map fun j => s!".children[{j}]")

/-- The value at an address. -/
def node? (a : Address) (doc : Value) : Option Value :=
  (a.start.node? doc).bind (·.descendant? a.steps)

/-- A document with another value at an address. -/
def replace (a : Address) (doc t : Value) : Value :=
  a.start.modify doc fun v => v.graft a.steps t

end Address

/-- What is said of a value that is meant to be a document. -/
def inspectionMessages (doc : Value) : List String := (inspectDocument doc).map Defect.message

/-! ### Inspection around a component -/

namespace Inspection

variable {ms : Members Value} {items : List Value} {place : Location}

lemma components_append {more : List Value} {n : ℕ} :
    components place n (items ++ more) =
      components place n items ++ components place (n + items.length) more := by
  induction items generalizing n with
  | nil => simp [components]
  | cons v rest ih =>
      have hlength : n + (v :: rest).length = n + 1 + rest.length := by
        rw [List.length_cons]
        omega
      rw [List.cons_append, components, components, ih, hlength, List.append_assoc]

/-- Another element of a list is inspected in the place of the one that it is put for. -/
lemma components_modify {n : ℕ} {v : Value} (hv : items[n]? = some v) (f : Value → Value) :
    components place 0 (items.modify n f) =
      components place 0 (items.take n) ++ component (place.element n) (f v) ++
        components place (n + 1) (items.drop (n + 1)) := by
  obtain ⟨hn, rfl⟩ := List.getElem?_eq_some_iff.mp hv
  have hlength : (items.take n).length = n := List.length_take_of_le hn.le
  rw [List.modify_eq_take_cons_drop hn, components_append, components, Nat.zero_add, hlength,
    List.append_assoc]

lemma ofPresent_put_of_ne {key other : String} (h : other ≠ key) (w : Value)
    (inspect : Value → List Defect) :
    ofPresent (ms.put key w) other inspect = ofPresent ms other inspect := by
  rw [ofPresent, Textual.lit_string, Members.get?_put_of_ne _ _ h]
  rfl

lemma ofPresent_put_self {key : String} {w : Value} (hw : w ≠ .null)
    (inspect : Value → List Defect) : ofPresent (ms.put key w) key inspect = inspect w := by
  rw [ofPresent, Textual.lit_string, Members.get?_put_self]
  cases w <;> first | exact absurd rfl hw | rfl

/-- What every component needs is found in four members. -/
lemma attributes_put {key : String} (hkey : key ∉ ["id", "type", "style", "className"])
    (w : Value) : attributes place (ms.put key w) = attributes place ms := by
  simp only [List.mem_cons, List.not_mem_nil, or_false, not_or] at hkey
  obtain ⟨hid, htype, hstyle, hclass⟩ := hkey
  simp only [attributes, mapMember, textMember, ofPresent_put_of_ne (Ne.symm hstyle),
    ofPresent_put_of_ne (Ne.symm hclass), Members.get?_put_of_ne _ _ (Ne.symm hid),
    Members.get?_put_of_ne _ _ (Ne.symm htype), Textual.lit_string]

/-- A container is inspected in its own members first, and then in its children. -/
lemma component_put_children (htype : ms.get? "type" = some (.str "container"))
    (items : List Value) :
    component place (.obj (ms.put "children" (.arr items))) =
      attributes place ms ++ arrangement place ms ++
        components (place.field "children") 0 items := by
  have hkind : ((ms.put "children" (.arr items)).get? "type").bind (wordOf? ComponentKind) =
      some .container :=
    type_eq_some_iff.mpr ((Members.get?_put_of_ne _ _ (by decide)).trans htype)
  have hattributes : attributes place (ms.put "children" (.arr items)) = attributes place ms :=
    attributes_put (by decide) _
  have harrangement :
      arrangement place (ms.put "children" (.arr items)) = arrangement place ms := by
    simp [arrangement, wordMember, ofPresent_put_of_ne]
  simp only [component, hkind, hattributes, harrangement, children_eq, ofPresent,
    Members.get?_put_self, List.append_assoc, Textual.lit_string]

/-- **Inspection of a component splits around each of its descendants.** -/
lemma exists_component_graft {v t : Value} {steps : List ℕ} (h : v.descendant? steps = some t)
    (place : Location) : ∃ before after, ∀ t', component place (v.graft steps t') =
      before ++ component (place ++ .ofSteps steps) t' ++ after := by
  induction steps generalizing v place with
  | nil => exact ⟨[], [], fun t' => by simp [Value.graft, Location.ofSteps]⟩
  | cons j steps ih =>
      simp only [Value.descendant?, Option.bind_eq_some_iff] at h
      obtain ⟨child, ⟨items, hitems, hchild⟩, ht⟩ := h
      obtain ⟨before, after, hsplit⟩ := ih ht ((place.field "children").element j)
      have hplace : (place.field "children").element j ++ Location.ofSteps steps =
          place ++ Location.ofSteps (j :: steps) := by
        simp [Location.field, Location.element, Location.ofSteps]
      obtain ⟨ms, rfl, htype, -⟩ := Value.children?_eq_some_iff.mp hitems
      refine ⟨attributes place ms ++ arrangement place ms ++
          components (place.field "children") 0 (items.take j) ++ before,
        after ++ components (place.field "children") (j + 1) (items.drop (j + 1)), fun t' => ?_⟩
      rw [Value.graft, hitems, Option.getD_some, Value.withMember, component_put_children htype,
        components_modify hchild, hsplit, hplace]
      simp only [List.append_assoc]

/-- The defects of a document in its root. -/
def rootDefects {τ : Type} [DecidableEq τ] [Textual τ] : Option (Value τ) → List (Defect τ)
  | none | some .null => [⟨[.name "root"], .required⟩]
  | some v => component [.name "root"] v

/-- The defects of a document in the components that it lists. -/
def listDefects {τ : Type} [DecidableEq τ] [Textual τ] (ms : Members (Value τ) τ) :
    List (Defect τ) :=
  ofPresent ms "components" fun
    | .arr items => components [.name "components"] 0 items
    | _ => [⟨[.name "components"], .notArray⟩]

/-- The defects of a document in what is no component. -/
def others (ms : Members Value) : List Defect :=
  ofPresent ms "config" (config [.name "config"]) ++ textMember [] ms "name" ++
    textMember [] ms "version"

lemma inspectDocument_obj (ms : Members Value) :
    inspectDocument (.obj ms) = rootDefects (ms.get? "root") ++ listDefects ms ++ others ms :=
  calc inspectDocument (.obj ms)
      = rootDefects (ms.get? "root") ++ listDefects ms ++
          ofPresent ms "config" (config [.name "config"]) ++ textMember [] ms "name" ++
          textMember [] ms "version" := rfl
    _ = rootDefects (ms.get? "root") ++ listDefects ms ++ others ms := by
      simp only [others, List.append_assoc]

lemma others_put {key : String} (h : key = "root" ∨ key = "components") (ms : Members Value)
    (v : Value) : others (ms.put key v) = others ms := by
  rcases h with rfl | rfl <;> simp [others, textMember, ofPresent_put_of_ne]

/-- A root that is given is inspected first. -/
lemma exists_inspect_put_root (ms : Members Value) :
    ∃ after, ∀ v, v ≠ .null →
      inspectDocument (.obj (ms.put "root" v)) = component [.name "root"] v ++ after := by
  refine ⟨listDefects ms ++ others ms, fun v hv => ?_⟩
  have hroot : rootDefects (some v) = component [.name "root"] v := by
    cases v <;> first | exact absurd rfl hv | rfl
  have hlist : listDefects (ms.put "root" v) = listDefects ms :=
    ofPresent_put_of_ne (show "components" ≠ "root" by decide) v _
  rw [inspectDocument_obj, Members.get?_put_self, hroot, hlist, others_put (.inl rfl),
    List.append_assoc]

/-- The components that are listed are inspected behind the root. -/
lemma exists_inspect_put_components (ms : Members Value) :
    ∃ before after, ∀ items, inspectDocument (.obj (ms.put "components" (.arr items))) =
      before ++ components [.name "components"] 0 items ++ after := by
  refine ⟨rootDefects (ms.get? "root"), others ms, fun items => ?_⟩
  have hroot : (ms.put "components" (.arr items)).get? "root" = ms.get? "root" :=
    Members.get?_put_of_ne _ _ (by decide)
  have hgiven : Value.arr items ≠ .null := nofun
  have hlist : listDefects (ms.put "components" (.arr items)) =
      components [.name "components"] 0 items := ofPresent_put_self hgiven _
  rw [inspectDocument_obj, hroot, hlist, others_put (.inr rfl)]

/-- Inspection of a document splits around its root and around each component that it lists. -/
lemma exists_inspect_modify {start : Start} {doc v : Value} (h : start.node? doc = some v) :
    ∃ before after, ∀ f : Value → Value, (start = .root → f v ≠ .null) →
      inspectDocument (start.modify doc f) = before ++ component start.place (f v) ++ after := by
  cases start with
  | root =>
      simp only [Start.node?, Option.filter_eq_some_iff] at h
      obtain ⟨hroot, -⟩ := h
      cases doc with
      | obj ms =>
          obtain ⟨after, hsplit⟩ := exists_inspect_put_root ms
          refine ⟨[], after, fun f hf => ?_⟩
          rw [Start.modify, hroot, Option.getD_some, Value.withMember, hsplit _ (hf rfl)]
          rfl
      | _ => cases hroot
  | listed n =>
      obtain ⟨items, hitems, hv⟩ := Option.bind_eq_some_iff.mp h
      obtain ⟨ms, rfl, -⟩ := Value.member_arr?_eq_some_iff.mp hitems
      obtain ⟨before, after, hsplit⟩ := exists_inspect_put_components ms
      refine ⟨before ++ components [.name "components"] 0 (items.take n),
        components [.name "components"] (n + 1) (items.drop (n + 1)) ++ after, fun f _ => ?_⟩
      rw [Start.modify, hitems, Option.getD_some, Value.withMember, hsplit, components_modify hv]
      simp only [List.append_assoc]
      rfl

end Inspection

/-! ### Other values at an address -/

/-- A member that is set to what it is stays as it is. -/
lemma Members.put_of_get? {α : Type} {ms : Members α} {key : String} {a : α}
    (h : ms.get? key = some a) : ms.put key a = ms := by
  induction ms with
  | nil => cases h
  | cons m rest ih =>
      obtain ⟨k, b⟩ := m
      rw [get?_cons] at h
      by_cases hkey : key = k
      · rw [if_pos hkey, Option.some.injEq] at h
        simp [put, hkey, h]
      · rw [if_neg hkey] at h
        simp [put, hkey, ih h]

/-- An element that is set to what it is stays as it is. -/
lemma modify_of_getElem? {α : Type} {l : List α} {n : ℕ} {a : α} {f : α → α} (h : l[n]? = some a)
    (hf : f a = a) : l.modify n f = l := by
  refine List.ext_getElem? fun m => ?_
  rw [List.getElem?_modify]
  by_cases hm : n = m
  · subst hm
    simp [h, hf]
  · simp [hm]

/-- A descendant that is put in its own place changes nothing. -/
lemma Value.graft_of_descendant? {v t : Value} {steps : List ℕ}
    (h : v.descendant? steps = some t) : v.graft steps t = v := by
  induction steps generalizing v with
  | nil => exact (Option.some.inj h).symm
  | cons j steps ih =>
      simp only [descendant?, Option.bind_eq_some_iff] at h
      obtain ⟨child, ⟨items, hitems, hchild⟩, ht⟩ := h
      obtain ⟨ms, rfl, -, hget⟩ := children?_eq_some_iff.mp hitems
      rw [graft, hitems, Option.getD_some, withMember, modify_of_getElem? hchild (ih ht),
        Members.put_of_get? hget]

/-- An object stays an object when a value is put below it. -/
lemma Value.graft_ne_null {v t t' : Value} {steps : List ℕ} (h : v.descendant? steps = some t)
    (ht' : steps = [] → t' ≠ .null) : v.graft steps t' ≠ .null := by
  cases steps with
  | nil => exact ht' rfl
  | cons j steps =>
      simp only [descendant?, Option.bind_eq_some_iff] at h
      obtain ⟨_, ⟨_, hitems, -⟩, -⟩ := h
      obtain ⟨ms, rfl, -, -⟩ := children?_eq_some_iff.mp hitems
      simp [graft, withMember]

lemma Start.modify_of_node? {start : Start} {doc v : Value} {f : Value → Value}
    (h : start.node? doc = some v) (hf : f v = v) : start.modify doc f = doc := by
  cases start with
  | root =>
      simp only [node?, Option.filter_eq_some_iff] at h
      obtain ⟨hroot, -⟩ := h
      cases doc with
      | obj ms =>
          rw [modify, hroot, Option.getD_some, hf, Value.withMember, Members.put_of_get? hroot]
      | _ => cases hroot
  | listed n =>
      obtain ⟨items, hitems, hv⟩ := Option.bind_eq_some_iff.mp h
      obtain ⟨ms, rfl, hget⟩ := Value.member_arr?_eq_some_iff.mp hitems
      rw [modify, hitems, Option.getD_some, Value.withMember, modify_of_getElem? hv hf,
        Members.put_of_get? hget]

namespace Address

variable {a : Address} {doc t : Value}

/-- Null is no root. -/
lemma ne_null_of_node? (h : a.node? doc = some t) (ha : a = ⟨.root, []⟩) : t ≠ .null := by
  subst ha
  rintro rfl
  simp [node?, Start.node?, Value.descendant?, Option.filter_eq_some_iff, Value.isNull] at h

/-- The value at an address that is put there changes nothing. -/
lemma replace_of_node? (h : a.node? doc = some t) : a.replace doc t = doc := by
  obtain ⟨v, hv, ht⟩ := Option.bind_eq_some_iff.mp h
  exact Start.modify_of_node? hv (Value.graft_of_descendant? ht)

lemma trail_ofSteps (steps : List ℕ) :
    (Location.ofSteps steps).trail = String.join (steps.map fun j => s!".children[{j}]") := by
  induction steps with
  | nil => rfl
  | cons j rest ih =>
      have hcons : Location.ofSteps (j :: rest) =
          .name "children" :: .index j :: Location.ofSteps rest := rfl
      rw [Location.trail] at ih
      rw [hcons, Location.trail, List.map_cons, List.map_cons, String.join_cons, String.join_cons,
        ih, List.map_cons, String.join_cons, ← String.append_assoc]
      rfl

lemma text_start (start : Start) : start.place.text = start.path := by
  cases start <;> rfl

lemma start_path_ne_empty (start : Start) : start.path ≠ "" := by
  cases start <;> simp [Start.path]

lemma path_ne_empty (a : Address) : a.path ≠ "" := by
  simp [path, start_path_ne_empty]

/-- A place in words is the path. -/
lemma text_place (a : Address) : a.place.text = a.path := by
  have hstart : a.start.place.text ≠ "" := by
    rw [text_start]
    exact start_path_ne_empty a.start
  rw [place, Location.text_append hstart, text_start, trail_ofSteps, path]

end Address

/-- Inspection of a document splits around each of its components. -/
lemma Inspection.exists_inspect_replace {a : Address} {doc t : Value} (h : a.node? doc = some t) :
    ∃ before after, ∀ t', (a = ⟨.root, []⟩ → t' ≠ .null) →
      inspectDocument (a.replace doc t') = before ++ component a.place t' ++ after := by
  obtain ⟨v, hv, ht⟩ := Option.bind_eq_some_iff.mp h
  obtain ⟨first, last, houter⟩ := exists_inspect_modify hv
  obtain ⟨before, after, hinner⟩ := exists_component_graft ht a.start.place
  refine ⟨first ++ before, after ++ last, fun t' hnull => ?_⟩
  have hgraft : a.start = .root → v.graft a.steps t' ≠ .null := by
    intro hroot
    refine Value.graft_ne_null ht fun hsteps => hnull ?_
    rw [← hroot, ← hsteps]
  rw [Address.replace, houter _ hgraft, hinner, Address.place]
  simp only [List.append_assoc]

open Inspection in
/-- **What is said of a component depends on nothing else, and nothing else depends on it.** The
messages about a document are those about one of its components, those before and those behind.
Another value there changes the first only. They are what is said of the value anywhere, each
behind the path of the component, and there are none exactly when it is well-formed. -/
theorem messages_replace {a : Address} {doc t : Value} (h : a.node? doc = some t) :
    ∃ before after,
      inspectionMessages doc = before ++ reports a.place t ++ after ∧
      (∀ t', (a = ⟨.root, []⟩ → t' ≠ .null) →
        inspectionMessages (a.replace doc t') = before ++ reports a.place t' ++ after) ∧
      ∀ x, reports a.place x = (remarks x).map (a.path ++ ·) ∧
        (reports a.place x = [] ↔ Grammar.IsComponent false x) := by
  obtain ⟨before, after, hdefects⟩ := exists_inspect_replace h
  have hsplit (t' : Value) (hnull : a = ⟨.root, []⟩ → t' ≠ .null) :
      inspectionMessages (a.replace doc t') = before.map Defect.message ++
        reports a.place t' ++ after.map Defect.message := by
    rw [inspectionMessages, hdefects t' hnull, List.map_append, List.map_append, reports]
  have hplace : a.place.text ≠ "" := a.text_place ▸ a.path_ne_empty
  refine ⟨before.map Defect.message, after.map Defect.message, ?_, hsplit,
    fun x => ⟨?_, reports_eq_nil_iff⟩⟩
  · rw [← hsplit t (Address.ne_null_of_node? h), Address.replace_of_node? h]
  · rw [reports_eq hplace, Address.text_place]

/-- A document with defects in a child, in a button two levels down, and in a component that is
listed. -/
def threeDefects : Value :=
  .obj [("root", .obj [("id", .str "r"), ("type", .str "container"), ("children", .arr [
      .obj [("id", .str ""), ("type", .str "text"), ("text", .str "x")],
      .obj [("id", .str "c"), ("type", .str "container"), ("children", .arr [
        .obj [("id", .str "b"), ("type", .str "button"), ("text", .int 1)]])]])]),
    ("components", .arr [.obj [("id", .str "t"), ("type", .str "table")]])]

/-- The button of `threeDefects`. -/
def misnamedButton : Value := .obj [("id", .str "b"), ("type", .str "button"), ("text", .int 1)]

open Inspection in
theorem messages_replace_button :
    (⟨.root, [1, 0]⟩ : Address).node? threeDefects = some misnamedButton ∧
    ∃ before after,
      inspectionMessages threeDefects =
        before ++ reports (Address.place ⟨.root, [1, 0]⟩) misnamedButton ++ after ∧
      (∀ t', ((⟨.root, [1, 0]⟩ : Address) = ⟨.root, []⟩ → t' ≠ .null) →
        inspectionMessages (Address.replace ⟨.root, [1, 0]⟩ threeDefects t') =
          before ++ reports (Address.place ⟨.root, [1, 0]⟩) t' ++ after) ∧
      ∀ x, reports (Address.place ⟨.root, [1, 0]⟩) x =
          (remarks x).map (Address.path ⟨.root, [1, 0]⟩ ++ ·) ∧
        (reports (Address.place ⟨.root, [1, 0]⟩) x = [] ↔ Grammar.IsComponent false x) := by
  have h : (⟨.root, [1, 0]⟩ : Address).node? threeDefects = some misnamedButton := by decide
  exact ⟨h, messages_replace h⟩

end LivePage
