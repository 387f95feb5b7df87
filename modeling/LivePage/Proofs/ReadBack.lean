/-
What is written is read back. Every part of a document is written as a value
that is read as the same part under the names that are written, unless some
component is inside too many containers.

* `Field.written?`: the member that a field is written as;
* `Component.Fits`, `Document.Fits`: there is room for all components;
* `Reading.action_eq_ok_iff`, `Reading.component_container_eq_ok_iff` and their
  like: a part is read exactly if each of its fields is;
* `Reading.component_toValue`: components, by recursion through the children;
* `Reading.document_toValue`: whole documents.
-/
import LivePage.Document.Reader
import LivePage.Document.Writer
import LivePage.Proofs.Reading
import LivePage.Proofs.Renaming
import LivePage.Proofs.Words

namespace LivePage

/-! ### Written members -/

lemma Members.get?_append {α τ : Type} [DecidableEq τ] (ms others : Members α τ) (key : τ) :
    get? (ms ++ others) key = (ms.get? key).or (others.get? key) := by
  induction ms with
  | nil => simp [get?_nil]
  | cons m rest ih =>
      obtain ⟨k, a⟩ := m
      rw [List.cons_append, get?_cons, get?_cons, ih]
      split <;> simp

/-- The value that a field is written as, if it is written. -/
def Field.written? {α τ : Type} (write : α → Value τ) : Field α → Option (Value τ)
  | .absent => none
  | .null => some .null
  | .given a => some (write a)

lemma Field.get?_toMembers {α τ : Type} [DecidableEq τ] [Textual τ] (key : String) (other : τ)
    (write : α → Value τ) (f : Field α) :
    (f.toMembers key write).get? other =
      if other = Textual.lit key then f.written? write else none := by
  cases f <;> simp [toMembers, written?, Members.get?_cons, Members.get?_nil]

/-! ### Room for components -/

open Reading (containerLimit) in
/-- No component in a component is inside too many containers, when there are `around` containers
around it. -/
inductive Component.Fits {τ : Type} : ℕ → Component τ → Prop
  | container {around : ℕ} {a : Attributes τ} {r : Arrangement}
      {children : Field (List (Component τ))} (room : around < containerLimit)
      (each : ∀ cs, children = .given cs → ∀ c ∈ cs, Fits (around + 1) c) :
      Fits around (.container a r children)
  | text {around : ℕ} (a : Attributes τ) (content : τ) (room : around < containerLimit) :
      Fits around (.text a content)
  | input {around : ℕ} (a : Attributes τ) (e : Entry τ) (room : around < containerLimit) :
      Fits around (.input a e)
  | button {around : ℕ} (a : Attributes τ) (content : τ) (action : Field (Action τ))
      (room : around < containerLimit) : Fits around (.button a content action)

/-- No component in a document is inside too many containers. -/
structure Document.Fits {τ : Type} (d : Document τ) : Prop where
  root : d.root.Fits 0
  components : ∀ cs, d.components = .given cs → ∀ c ∈ cs, c.Fits 0

/-! ### Combined readings -/

namespace Checked

variable {τ α β : Type} {c : Checked τ α}

@[simp]
lemma map_eq_ok_iff {f : α → β} {b : β} : f <$> c = .ok b ↔ ∃ a, c = .ok a ∧ f a = b := by
  cases c <;> simp [Functor.map, Checked.map]

@[simp]
lemma seq_eq_ok_iff {f : Checked τ (α → β)} {b : β} :
    f <*> c = .ok b ↔ ∃ g a, f = .ok g ∧ c = .ok a ∧ g a = b := by
  cases f <;> cases c <;> simp [Seq.seq, ap]

end Checked

namespace Reading

/-! ### Plain values and maps -/

section

variable {τ α : Type} {read : Location τ → Value τ → Checked τ α} {write : α → Value τ}

lemma text_str (place : Location τ) (s : τ) : text place (.str s) = .ok s := rfl

lemma double_num (place : Location τ) (x : Double) : double place (.num x) = .ok x := rfl

lemma styleValue_toValue [Textual τ] (place : Location τ) (x : StyleValue τ) :
    styleValue place x.toValue = .ok x := by
  cases x <;> rfl

lemma map_mapValues (hread : ∀ place a, read place (write a) = .ok a) (place : Location τ)
    (xs : Members α τ) : map read place (.obj (xs.mapValues write)) = .ok xs := by
  rw [map]
  induction xs with
  | nil => rfl
  | cons m rest ih =>
      rw [Members.mapValues, List.map_cons, entries, hread]
      rw [Members.mapValues] at ih
      rw [ih]
      rfl

end

/-! ### Records and components -/

variable {τ α : Type} [DecidableEq τ] [Textual τ] {place : Location τ} {ms : Members (Value τ) τ}
  {key : String} {read : Location τ → Value τ → Checked τ α} {write : α → Value τ} {around : ℕ}

lemma binding_eq_ok_iff {b : Binding τ} :
    binding place (.obj ms) = .ok b ↔
      required place ms "component" text = .ok b.component ∧ bindingPath place ms = .ok b.path := by
  obtain ⟨component, path⟩ := b
  simp only [binding, Checked.seq_eq_ok_iff, Checked.map_eq_ok_iff, exists_exists_and_eq_and,
    Binding.mk.injEq, exists_and_left, exists_eq_right_right]

/-- The fields of an action are read each by itself. -/
lemma action_eq_ok_iff {a : Action τ} :
    action place (.obj ms) = .ok a ↔
      required place ms "type" (word ActionKind) = .ok a.kind ∧
      optional place ms "endpoint" text = .ok a.endpoint ∧
      optional place ms "method" (word Method) = .ok a.method ∧
      optional place ms "headers" textMap = .ok a.headers ∧
      optional place ms "payload" payload = .ok a.payload ∧
      optionalEither place ms "successMessage" "success_message" text = .ok a.successMessage ∧
      optionalEither place ms "errorMessage" "error_message" text = .ok a.errorMessage := by
  obtain ⟨kind, endpoint, method, headers, payload, success, error⟩ := a
  simp [action, and_assoc]

lemma config_eq_ok_iff {c : Config τ} :
    config place (.obj ms) = .ok c ↔
      optionalEither place ms "authToken" "auth_token" text = .ok c.authToken ∧
      optional place ms "endpoints" textMap = .ok c.endpoints ∧
      optional place ms "headers" textMap = .ok c.headers := by
  obtain ⟨token, endpoints, headers⟩ := c
  simp [config]

lemma attributes_eq_ok_iff {a : Attributes τ} :
    attributes place ms = .ok a ↔
      required place ms "id" text = .ok a.id ∧
      optional place ms "style" (map styleValue) = .ok a.style ∧
      optionalEither place ms "className" "class_name" text = .ok a.className := by
  obtain ⟨id, style, className⟩ := a
  simp [attributes]

lemma arrangement_eq_ok_iff {a : Arrangement} :
    arrangement place ms = .ok a ↔
      optional place ms "direction" (word Direction) = .ok a.direction ∧
      optional place ms "gap" double = .ok a.gap ∧
      optional place ms "align" (word Alignment) = .ok a.align := by
  obtain ⟨direction, gap, align⟩ := a
  simp [arrangement]

lemma entry_eq_ok_iff {e : Entry τ} :
    entry place ms = .ok e ↔
      optional place ms "placeholder" text = .ok e.placeholder ∧
      optional place ms "value" text = .ok e.value ∧
      optional place ms "name" text = .ok e.name := by
  obtain ⟨placeholder, value, name⟩ := e
  simp [entry]

lemma component_container_eq_ok_iff {c : Component τ}
    (type : ms.get? "type" = some (.str "container")) :
    component around place (.obj ms) = .ok c ↔ around < containerLimit ∧ ∃ a r children,
      attributes (place.field "container") ms = .ok a ∧
      arrangement (place.field "container") ms = .ok r ∧
      optional (place.field "container") ms "children" (componentList (around + 1)) =
        .ok children ∧
      .container a r children = c := by
  rw [component, kind_eq_some .container type, ← not_le]
  by_cases hfull : containerLimit ≤ around
  · simp [hfull, Checked.fail]
  · simp [hfull, children_eq, Vocabulary.text]

lemma component_text_eq_ok_iff {c : Component τ} (type : ms.get? "type" = some (.str "text")) :
    component around place (.obj ms) = .ok c ↔ around < containerLimit ∧ ∃ a content,
      attributes (place.field "text") ms = .ok a ∧
      required (place.field "text") ms "text" text = .ok content ∧ .text a content = c := by
  rw [component, kind_eq_some .text type, ← not_le]
  by_cases hfull : containerLimit ≤ around
  · simp [hfull, Checked.fail]
  · simp [hfull, Vocabulary.text]

lemma component_input_eq_ok_iff {c : Component τ} (type : ms.get? "type" = some (.str "input")) :
    component around place (.obj ms) = .ok c ↔ around < containerLimit ∧ ∃ a e,
      attributes (place.field "input") ms = .ok a ∧
      entry (place.field "input") ms = .ok e ∧ .input a e = c := by
  rw [component, kind_eq_some .input type, ← not_le]
  by_cases hfull : containerLimit ≤ around
  · simp [hfull, Checked.fail]
  · simp [hfull, Vocabulary.text]

lemma component_button_eq_ok_iff {c : Component τ} (type : ms.get? "type" = some (.str "button")) :
    component around place (.obj ms) = .ok c ↔ around < containerLimit ∧ ∃ a content act,
      attributes (place.field "button") ms = .ok a ∧
      required (place.field "button") ms "text" text = .ok content ∧
      optional (place.field "button") ms "action" action = .ok act ∧
      .button a content act = c := by
  rw [component, kind_eq_some .button type, ← not_le]
  by_cases hfull : containerLimit ≤ around
  · simp [hfull, Checked.fail]
  · simp [hfull, Vocabulary.text]

lemma document_eq_ok_iff {d : Document τ} :
    document (.obj ms) = .ok d ↔
      optional [] ms "name" text = .ok d.name ∧
      optional [] ms "version" text = .ok d.version ∧
      optional [] ms "config" config = .ok d.config ∧
      required [] ms "root" (component 0) = .ok d.root ∧
      optional [] ms "components" (componentList 0) = .ok d.components := by
  obtain ⟨name, version, config, root, components⟩ := d
  simp [document, and_assoc]

/-! ### Reading what is written -/

lemma required_of_given {a b : α} (hget : ms.get? key = some (write a))
    (hread : ∀ place, read place (write a) = .ok b) : required place ms key read = .ok b := by
  rw [required, hget]
  exact hread _

lemma required_of_get? {a : α} (hget : ms.get? key = some (write a))
    (hread : ∀ place a, read place (write a) = .ok a) : required place ms key read = .ok a :=
  required_of_given hget fun place => hread place a

/-- A field is read back if its value is, and if that is not written as null. -/
lemma optional_map_of_given {f : Field α} {back : α → α} (hget : ms.get? key = f.written? write)
    (hread : ∀ place a, f = .given a → read place (write a) = .ok (back a))
    (hnull : ∀ a, write a ≠ .null) : optional place ms key read = .ok (f.map back) := by
  rcases f with _ | _ | a
  · rw [optional, hget, Field.written?, Field.map]
  · rw [optional, hget, Field.written?, Field.map]
  · rw [optional_eq_map hget (hnull a), hread _ a rfl, Checked.map, Field.map]

lemma optional_map_of_get? {f : Field α} {back : α → α} (hget : ms.get? key = f.written? write)
    (hread : ∀ place a, read place (write a) = .ok (back a)) (hnull : ∀ a, write a ≠ .null) :
    optional place ms key read = .ok (f.map back) :=
  optional_map_of_given hget (fun place a _ => hread place a) hnull

lemma optional_of_get? {f : Field α} (hget : ms.get? key = f.written? write)
    (hread : ∀ place a, read place (write a) = .ok a) (hnull : ∀ a, write a ≠ .null) :
    optional place ms key read = .ok f := by
  have h : optional place ms key read = .ok (f.map id) := optional_map_of_get? hget hread hnull
  rwa [Field.map_id] at h

lemma optionalText_of_get? {other : String} {f : Field τ}
    (hget : ms.get? key = f.written? .str) (hother : ms.get? other = none) :
    optionalEither place ms key other text = .ok f := by
  rw [optionalEither, Members.has]
  rcases f with _ | _ | s
  · simp [hget, Field.written?, optional, hother]
  · simp [hget, Field.written?, optional]
  · simp [hget, Field.written?, optional, text, Checked.map]

lemma word_wordValue {α : Type} [Vocabulary α] [LawfulVocabulary α] (place : Location τ) (a : α) :
    word α place (wordValue a) = .ok a := by
  simp [word, wordValue, Value.str?]

/-- The entries of a map are read back under the names that are written. -/
lemma map_mapValue (hread : ∀ place a, read place (write a) = .ok a) (place : Location τ)
    (xs : Members α τ) : map read place (mapValue write xs) = .ok xs.asWritten := by
  rw [mapValue, ← Members.asWritten]
  exact map_mapValues hread place xs.asWritten

lemma textMap_textMapValue (place : Location τ) (texts : Members τ τ) :
    textMap place (textMapValue texts) = .ok texts.asWritten :=
  map_mapValue text_str place texts

/-- A literal is written as a plain value and a binding as an object, so neither is taken for the
other. -/
lemma payloadEntry_toValue (place : Location τ) (entry : PayloadEntry (Scalar τ) τ) :
    payloadEntry place entry.toValue = .ok entry := by
  rcases entry with value | binding
  · cases value <;> rfl
  · rw [PayloadEntry.toValue, Binding.toValue, payloadEntry, (binding_eq_ok_iff (b := binding)).mpr]
    · rfl
    · simp [required, bindingPath, Members.get?_cons, text, path]

lemma payload_toValue (place : Location τ) (p : Payload (Scalar τ) τ) :
    payload place p.toValue = .ok p.asWritten := by
  rw [Payload.toValue, mapValue, payload, ← Members.asWritten]
  induction p.asWritten with
  | nil => rfl
  | cons m rest ih =>
      rw [Members.mapValues] at ih
      rw [Members.mapValues, List.map_cons, payloadEntries, payloadEntry_toValue, ih]
      rfl

lemma action_toValue (place : Location τ) (a : Action τ) :
    action place a.toValue = .ok a.renamed := by
  rw [Action.toValue, action_eq_ok_iff]
  refine ⟨required_of_get? ?_ word_wordValue,
    optional_of_get? ?_ text_str (by simp),
    optional_of_get? ?_ word_wordValue (by simp [wordValue]),
    optional_map_of_get? ?_ textMap_textMapValue (by simp [textMapValue, mapValue]),
    optional_map_of_get? ?_ payload_toValue (by simp [Payload.toValue, mapValue]),
    optionalText_of_get? ?_ ?_, optionalText_of_get? ?_ ?_⟩
  all_goals
    simp [Members.get?_cons, Members.get?_append, Field.get?_toMembers, Action.renamed]

lemma config_toValue (place : Location τ) (c : Config τ) :
    config place c.toValue = .ok c.renamed := by
  rw [Config.toValue, config_eq_ok_iff]
  refine ⟨optionalText_of_get? ?_ ?_,
    optional_map_of_get? ?_ textMap_textMapValue (by simp [textMapValue, mapValue]),
    optional_map_of_get? ?_ textMap_textMapValue (by simp [textMapValue, mapValue])⟩
  all_goals simp [Members.get?_append, Field.get?_toMembers, Config.renamed]

lemma type_toMembers (a : Attributes τ) (kind : ComponentKind) (rest : Members (Value τ) τ) :
    (a.toMembers kind ++ rest).get? "type" = some (.str (Vocabulary.text kind)) := by
  simp [Attributes.toMembers, Members.get?_cons, Members.get?_append, Field.get?_toMembers,
    wordValue]

/-- The attributes are read back if the members that follow them are of other names. -/
lemma attributes_toMembers (a : Attributes τ) {kind : ComponentKind} {rest : Members (Value τ) τ}
    (hrest : ∀ key ∈ ["style", "className", "class_name"], rest.get? key = none) :
    attributes place (a.toMembers kind ++ rest) = .ok a.renamed := by
  simp only [List.forall_mem_cons] at hrest
  rw [attributes_eq_ok_iff]
  refine ⟨required_of_get? ?_ text_str,
    optional_map_of_get? ?_ (map_mapValue styleValue_toValue) (by simp [mapValue]),
    optionalText_of_get? ?_ ?_⟩
  all_goals simp [Attributes.toMembers, Members.get?_cons, Members.get?_append,
    Field.get?_toMembers, Attributes.renamed, hrest]

/-- Names of attributes are no names of other members. -/
lemma get?_attributes {a : Attributes τ} {kind : ComponentKind} {rest : Members (Value τ) τ}
    (hkey : key ∉ ["id", "style", "className", "type"]) :
    (a.toMembers kind ++ rest).get? key = rest.get? key := by
  simp only [List.mem_cons, List.not_mem_nil, or_false, not_or] at hkey
  simp [Attributes.toMembers, Members.get?_cons, Members.get?_append, Field.get?_toMembers, hkey]

lemma arrangement_of_get? {r : Arrangement}
    (hget : ∀ key ∈ ["direction", "gap", "align"],
      ms.get? key = (r.toMembers : Members (Value τ) τ).get? key) :
    arrangement place ms = .ok r := by
  simp only [List.forall_mem_cons] at hget
  rw [arrangement_eq_ok_iff]
  refine ⟨optional_of_get? ?_ word_wordValue (by simp [wordValue]),
    optional_of_get? ?_ double_num (by simp),
    optional_of_get? ?_ word_wordValue (by simp [wordValue])⟩
  all_goals simp [hget, Arrangement.toMembers, Members.get?_append, Field.get?_toMembers]

lemma entry_of_get? {e : Entry τ}
    (hget : ∀ key ∈ ["placeholder", "value", "name"], ms.get? key = e.toMembers.get? key) :
    entry place ms = .ok e := by
  simp only [List.forall_mem_cons] at hget
  rw [entry_eq_ok_iff]
  refine ⟨optional_of_get? ?_ text_str (by simp), optional_of_get? ?_ text_str (by simp),
    optional_of_get? ?_ text_str (by simp)⟩
  all_goals simp [hget, Entry.toMembers, Members.get?_append, Field.get?_toMembers]

lemma components_map {cs : List (Component τ)} {n : ℕ}
    (h : ∀ c ∈ cs, ∀ place, component around place c.toValue = .ok c.renamed) :
    components around place n (cs.map Component.toValue) = .ok (Component.renamedAll cs) := by
  induction cs generalizing n with
  | nil => rfl
  | cons c rest ih =>
      rw [List.forall_mem_cons] at h
      rw [List.map_cons, components, h.1, ih h.2]
      rfl

/-! ### The members of a container -/

section

variable (a : Attributes τ) (r : Arrangement) (children : Field (List (Component τ)))
  (write : List (Component τ) → Value τ)

lemma get?_container_attributes :
    ∀ key ∈ ["style", "className", "class_name"],
      (r.toMembers ++ children.toMembers "children" write).get? key = none := by
  simp [Arrangement.toMembers, Members.get?_append, Field.get?_toMembers]

lemma get?_container_arrangement :
    ∀ key ∈ ["direction", "gap", "align"],
      (a.toMembers .container ++ (r.toMembers ++ children.toMembers "children" write)).get? key =
        (r.toMembers : Members (Value τ) τ).get? key := by
  intro key hkey
  rw [get?_attributes, Members.get?_append, Field.get?_toMembers, if_neg, Option.or_none]
  all_goals fin_cases hkey <;> simp

lemma get?_container_children :
    (a.toMembers .container ++ (r.toMembers ++ children.toMembers "children" write)).get?
      "children" = children.written? write := by
  rw [get?_attributes (by simp)]
  simp [Arrangement.toMembers, Members.get?_append, Field.get?_toMembers]

end

/-- **A component is read back**, under the names that are written. -/
theorem component_toValue {c : Component τ} (h : c.Fits around) (place : Location τ) :
    component around place c.toValue = .ok c.renamed := by
  induction h generalizing place with
  | @container around a r children room _ ih =>
      have hchildren (place : Location τ) (cs : List (Component τ)) (hcs : children = .given cs) :
          componentList (around + 1) place (.arr (cs.map Component.toValue)) =
            .ok (Component.renamedAll cs) :=
        components_map (ih cs hcs)
      rw [Component.toValue_container, Component.renamed_container, List.append_assoc,
        component_container_eq_ok_iff (type_toMembers a .container _)]
      exact ⟨room, a.renamed, r, children.map Component.renamedAll,
        attributes_toMembers a (get?_container_attributes r children _),
        arrangement_of_get? (get?_container_arrangement a r children _),
        optional_map_of_given (get?_container_children a r children _) hchildren (by simp), rfl⟩
  | text a content room =>
      rw [Component.toValue, component_text_eq_ok_iff (type_toMembers a .text _)]
      refine ⟨room, a.renamed, content, attributes_toMembers a ?_,
        required_of_get? ?_ text_str, rfl⟩
      · simp [Members.get?_cons, Members.get?_nil]
      · simp [get?_attributes, Members.get?_cons]
  | input a e room =>
      rw [Component.toValue, component_input_eq_ok_iff (type_toMembers a .input _)]
      refine ⟨room, a.renamed, e, attributes_toMembers a ?_, entry_of_get? fun key hkey => ?_, rfl⟩
      · simp [Entry.toMembers, Members.get?_append, Field.get?_toMembers]
      · rw [get?_attributes]
        fin_cases hkey <;> simp
  | button a content act room =>
      rw [Component.toValue, component_button_eq_ok_iff (type_toMembers a .button _)]
      refine ⟨room, a.renamed, content, act.map Action.renamed, attributes_toMembers a ?_,
        required_of_get? ?_ text_str,
        optional_map_of_get? ?_ action_toValue (by simp [Action.toValue]), rfl⟩
      · simp [Members.get?_cons, Field.get?_toMembers]
      · simp [get?_attributes, Members.get?_cons]
      · simp [get?_attributes, Members.get?_cons, Field.get?_toMembers]

/-- **A document is read back**, under the names that are written. -/
theorem document_toValue {d : Document τ} (h : d.Fits) :
    document d.toValue = .ok d.renamed := by
  rw [Document.toValue, document_eq_ok_iff]
  have hcomponents (place : Location τ) (cs : List (Component τ)) (hcs : d.components = .given cs) :
      componentList 0 place (.arr (Component.valuesOf cs)) = .ok (Component.renamedAll cs) := by
    rw [Component.valuesOf_eq_map]
    exact components_map fun c hc => component_toValue (h.components cs hcs c hc)
  refine ⟨optional_of_get? ?_ text_str (by simp), optional_of_get? ?_ text_str (by simp),
    optional_map_of_get? ?_ config_toValue (by simp [Config.toValue]),
    required_of_given ?_ (component_toValue h.root),
    optional_map_of_given ?_ hcomponents (by simp)⟩
  all_goals
    simp [Members.get?_cons, Members.get?_append, Field.get?_toMembers, Document.renamed]

end Reading

end LivePage
