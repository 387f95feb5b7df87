/-
Maps under the names that are written. A document is written with the entries of
its maps under their names as names, so what is written is another document if
some name is not written as it is.

* `Members.exists_of_mem_renamed`, `Members.renamed_mapValues`: the members
  under other names;
* `Members.renamed_eq_self_iff`: the members that keep their names;
* `Document.renamed`: a document under the names that are written;
* `Document.names`, `Document.renamed_eq_self_iff`: the names in the maps of a
  document, and the documents in which all of them are written as they are.
-/
import LivePage.Document.Writer
import Mathlib.Tactic

namespace LivePage

/-! ### Members -/

namespace Members

variable {α β τ : Type} [DecidableEq τ] {ms others : Members α τ} {m : τ × α} {f : τ → τ}

lemma mem_of_mem_put {key : τ} {a : α} (h : m ∈ ms.put key a) : m = (key, a) ∨ m ∈ ms := by
  induction ms with
  | nil => simpa [put] using h
  | cons n rest ih =>
      obtain ⟨k, b⟩ := n
      simp only [put, beq_iff_eq] at h
      split at h
      next hkey =>
        rw [hkey]
        exact (List.mem_cons.mp h).imp_right (List.mem_cons_of_mem _)
      next =>
        rcases List.mem_cons.mp h with rfl | hrest
        · exact .inr List.mem_cons_self
        · exact (ih hrest).imp_right (List.mem_cons_of_mem _)

lemma mem_of_mem_putAll (h : m ∈ putAll ms others) : m ∈ ms ∨ m ∈ others := by
  induction others generalizing ms with
  | nil => exact .inl h
  | cons n rest ih =>
      rcases ih h with hput | hrest
      · rcases mem_of_mem_put hput with rfl | hms
        · exact .inr List.mem_cons_self
        · exact .inl hms
      · exact .inr (List.mem_cons_of_mem n hrest)

lemma mapValues_put (g : α → β) (ms : Members α τ) (key : τ) (a : α) :
    mapValues g (ms.put key a) = (ms.mapValues g).put key (g a) := by
  induction ms with
  | nil => rfl
  | cons m rest ih =>
      simp only [mapValues, put, List.map_cons] at ih ⊢
      split <;> simp [ih]

lemma mapValues_putAll (g : α → β) (ms others : Members α τ) :
    mapValues g (putAll ms others) = putAll (mapValues g ms) (mapValues g others) := by
  induction others generalizing ms with
  | nil => rfl
  | cons m rest ih =>
      calc
        mapValues g (putAll (ms.put m.1 m.2) rest)
          = putAll (mapValues g (ms.put m.1 m.2)) (mapValues g rest) := ih _
        _ = putAll ((mapValues g ms).put m.1 (g m.2)) (mapValues g rest) := by rw [mapValues_put]

/-- Members that keep their names are not changed. -/
lemma renamed_eq_self (h : ∀ key ∈ ms.keys, f key = key) : ms.renamed f = ms := by
  rw [renamed, if_pos]
  simpa using h

/-- Every member has a value that was there, and the name that is given for its own. -/
lemma exists_of_mem_renamed (h : m ∈ ms.renamed f) : ∃ n ∈ ms, m = (f n.1, n.2) := by
  rw [renamed] at h
  split at h
  next hkeys =>
    have hkey : f m.1 = m.1 := by
      simpa using List.all_eq_true.mp hkeys m.1 (List.mem_map_of_mem h)
    exact ⟨m, h, by rw [hkey]⟩
  next =>
    rcases mem_of_mem_putAll h with hnil | hmap
    · cases hnil
    · obtain ⟨n, hn, rfl⟩ := List.mem_map.mp hmap
      exact ⟨n, hn, rfl⟩

lemma renamed_mapValues (f : τ → τ) (g : α → β) (ms : Members α τ) :
    (ms.mapValues g).renamed f = (ms.renamed f).mapValues g := by
  rw [renamed, renamed, keys_mapValues]
  split
  · rfl
  · rw [mapValues_putAll, mapValues, mapValues, List.map_map, mapValues, List.map_map]
    rfl

section

variable (hf : ∀ key, f (f key) = f key) (ms)

include hf

lemma eq_of_mem_keys_renamed : ∀ key ∈ (ms.renamed f).keys, f key = key := by
  intro key hkey
  obtain ⟨m, hm, rfl⟩ := List.mem_map.mp hkey
  obtain ⟨n, -, rfl⟩ := exists_of_mem_renamed hm
  exact hf n.1

lemma renamed_renamed : (ms.renamed f).renamed f = ms.renamed f :=
  renamed_eq_self (eq_of_mem_keys_renamed ms hf)

lemma renamed_eq_self_iff : ms.renamed f = ms ↔ ∀ key ∈ ms.keys, f key = key :=
  ⟨fun h => h ▸ eq_of_mem_keys_renamed ms hf, renamed_eq_self⟩

end

end Members

/-! ### Fields -/

namespace Field

variable {α β τ : Type} {field : Field α}

def map (f : α → β) : Field α → Field β
  | .absent => .absent
  | .null => .null
  | .given a => .given (f a)

lemma map_id (field : Field α) : field.map id = field := by
  cases field <;> rfl

/-- What the value of a field contributes to a list: nothing when it is not given. -/
def gather (f : α → List τ) : Field α → List τ
  | .given a => f a
  | _ => []

/-- A field stays as it is if the value does that is given. -/
lemma map_eq_self_iff {f : α → α} {names : α → List τ} {P : τ → Prop}
    (h : ∀ a, field = .given a → (f a = a ↔ ∀ name ∈ names a, P name)) :
    field.map f = field ↔ ∀ name ∈ field.gather names, P name := by
  rcases field with _ | _ | a
  · simp [map, gather]
  · simp [map, gather]
  · rw [map, gather, Field.given.injEq, h a rfl]

end Field

/-! ### Parts of documents -/

/-- The induction principle of components: a property holds of every component once a container
inherits it from its children. -/
@[elab_as_elim]
theorem Component.ind {τ : Type} {P : Component τ → Prop}
    (container : ∀ a r (children : Field (List (Component τ))),
      (∀ cs, children = .given cs → ∀ c ∈ cs, P c) → P (.container a r children))
    (text : ∀ a content, P (.text a content)) (input : ∀ a e, P (.input a e))
    (button : ∀ a content action, P (.button a content action)) (c : Component τ) : P c :=
  Component.rec (motive_1 := P)
    (motive_2 := fun children => ∀ cs, children = .given cs → ∀ c ∈ cs, P c)
    (motive_3 := fun cs => ∀ c ∈ cs, P c) (fun a r children => container a r children) text input
    button nofun nofun (fun _ ih _ h => Field.given.inj h ▸ ih) (by simp)
    (fun _ _ ihh iht => List.forall_mem_cons.mpr ⟨ihh, iht⟩) c

section

variable {τ : Type} [DecidableEq τ] [Textual τ]

/-- The entries of a map under the names that are written. -/
def Members.asWritten {α : Type} (entries : Members α τ) : Members α τ :=
  entries.renamed Textual.asName

def Action.renamed (a : Action τ) : Action τ :=
  { a with headers := a.headers.map Members.asWritten, payload := a.payload.map Members.asWritten }

def Config.renamed (c : Config τ) : Config τ :=
  { c with
    endpoints := c.endpoints.map Members.asWritten, headers := c.headers.map Members.asWritten }

def Attributes.renamed (a : Attributes τ) : Attributes τ :=
  { a with style := a.style.map Members.asWritten }

mutual

def Component.renamed : Component τ → Component τ
  | .container a r (.given children) =>
    .container a.renamed r (.given (Component.renamedAll children))
  | .container a r children => .container a.renamed r children
  | .text a content => .text a.renamed content
  | .input a e => .input a.renamed e
  | .button a content action => .button a.renamed content (action.map Action.renamed)
  termination_by structural c => c

def Component.renamedAll : List (Component τ) → List (Component τ)
  | [] => []
  | c :: rest => c.renamed :: Component.renamedAll rest
  termination_by structural cs => cs

end

/-- **The document under the names that are written.** -/
def Document.renamed (d : Document τ) : Document τ :=
  { d with
    config := d.config.map Config.renamed
    root := d.root.renamed
    components := d.components.map Component.renamedAll }

end

/-! ### The names in maps -/

section

variable {τ : Type}

def Action.names (a : Action τ) : List τ :=
  a.headers.gather Members.keys ++ a.payload.gather Members.keys

def Config.names (c : Config τ) : List τ :=
  c.endpoints.gather Members.keys ++ c.headers.gather Members.keys

def Attributes.names (a : Attributes τ) : List τ := a.style.gather Members.keys

mutual

/-- The names in the maps of a component and of its descendants. -/
def Component.names : Component τ → List τ
  | .container a _ (.given children) => a.names ++ Component.namesOfAll children
  | .container a _ _ | .text a _ | .input a _ => a.names
  | .button a _ action => a.names ++ action.gather Action.names
  termination_by structural c => c

def Component.namesOfAll : List (Component τ) → List τ
  | [] => []
  | c :: rest => c.names ++ Component.namesOfAll rest
  termination_by structural cs => cs

end

lemma Component.names_container (a : Attributes τ) (r : Arrangement)
    (children : Field (List (Component τ))) :
    (Component.container a r children).names = a.names ++ children.gather namesOfAll := by
  rcases children with _ | _ | cs <;> simp [names, Field.gather]

/-- The names in the maps of a document. -/
def Document.names (d : Document τ) : List τ :=
  d.config.gather Config.names ++ d.root.names ++ d.components.gather Component.namesOfAll

end

/-! ### Documents that keep their names -/

section

variable {τ : Type} [DecidableEq τ] [Textual τ] {name : τ}

lemma Members.asWritten_eq_self_iff {α : Type} (entries : Members α τ) :
    entries.asWritten = entries ↔ ∀ name ∈ entries.keys, Textual.asName name = name :=
  renamed_eq_self_iff entries Textual.asName_asName

lemma Members.asWritten_asWritten {α : Type} (entries : Members α τ) :
    entries.asWritten.asWritten = entries.asWritten :=
  renamed_renamed entries Textual.asName_asName

lemma Field.asWritten_eq_self_iff {α : Type} (field : Field (Members α τ)) :
    field.map Members.asWritten = field ↔
      ∀ name ∈ field.gather Members.keys, Textual.asName name = name :=
  map_eq_self_iff fun entries _ => entries.asWritten_eq_self_iff

lemma Action.renamed_eq_self_iff (a : Action τ) :
    a.renamed = a ↔ ∀ name ∈ a.names, Textual.asName name = name := by
  rw [names, List.forall_mem_append, ← Field.asWritten_eq_self_iff,
    ← Field.asWritten_eq_self_iff]
  cases a
  simp [renamed]

lemma Config.renamed_eq_self_iff (c : Config τ) :
    c.renamed = c ↔ ∀ name ∈ c.names, Textual.asName name = name := by
  rw [names, List.forall_mem_append, ← Field.asWritten_eq_self_iff,
    ← Field.asWritten_eq_self_iff]
  cases c
  simp [renamed]

lemma Attributes.renamed_eq_self_iff (a : Attributes τ) :
    a.renamed = a ↔ ∀ name ∈ a.names, Textual.asName name = name := by
  rw [names, ← Field.asWritten_eq_self_iff]
  cases a
  simp [renamed]

namespace Component

lemma renamedAll_eq_map (cs : List (Component τ)) : renamedAll cs = cs.map renamed := by
  induction cs with
  | nil => rfl
  | cons c rest ih => rw [renamedAll, ih, List.map_cons]

lemma renamed_container (a : Attributes τ) (r : Arrangement)
    (children : Field (List (Component τ))) :
    (container a r children).renamed = .container a.renamed r (children.map renamedAll) := by
  rcases children with _ | _ | cs <;> simp [renamed, Field.map]

lemma renamedAll_eq_self_iff {cs : List (Component τ)}
    (h : ∀ c ∈ cs, (c.renamed = c ↔ ∀ name ∈ c.names, Textual.asName name = name)) :
    renamedAll cs = cs ↔ ∀ name ∈ namesOfAll cs, Textual.asName name = name := by
  induction cs with
  | nil => simp [renamedAll, namesOfAll]
  | cons c rest ih =>
      rw [List.forall_mem_cons] at h
      rw [renamedAll, namesOfAll, List.cons.injEq, List.forall_mem_append, h.1, ih h.2]

lemma renamed_eq_self_iff (c : Component τ) :
    c.renamed = c ↔ ∀ name ∈ c.names, Textual.asName name = name := by
  induction c using ind with
  | container a r children ih =>
      rw [renamed_container, names_container, List.forall_mem_append,
        ← Field.map_eq_self_iff fun cs hcs => renamedAll_eq_self_iff (ih cs hcs),
        ← Attributes.renamed_eq_self_iff]
      simp
  | text a content => simp [renamed, names, a.renamed_eq_self_iff]
  | input a e => simp [renamed, names, a.renamed_eq_self_iff]
  | button a content action =>
      rw [renamed, names, List.forall_mem_append,
        ← Field.map_eq_self_iff fun a _ => a.renamed_eq_self_iff, ← Attributes.renamed_eq_self_iff]
      simp

end Component

/-- **A document is written as it is if all names in its maps are.** -/
theorem Document.renamed_eq_self_iff (d : Document τ) :
    d.renamed = d ↔ ∀ name ∈ d.names, Textual.asName name = name := by
  rw [names, List.forall_mem_append, List.forall_mem_append,
    ← Field.map_eq_self_iff fun c _ => c.renamed_eq_self_iff,
    ← Field.map_eq_self_iff fun cs _ =>
      Component.renamedAll_eq_self_iff fun c _ => c.renamed_eq_self_iff,
    ← Component.renamed_eq_self_iff]
  cases d
  simp [renamed, and_assoc]

/-! ### Writing again -/

lemma mapValue_asWritten {α : Type} (write : α → Value τ) (entries : Members α τ) :
    mapValue write entries.asWritten = mapValue write entries := by
  rw [mapValue, mapValue, ← Members.asWritten, ← Members.asWritten, Members.asWritten_asWritten]

lemma textMapValue_asWritten (texts : Members τ τ) :
    textMapValue texts.asWritten = textMapValue texts :=
  mapValue_asWritten .str texts

lemma Payload.toValue_asWritten (payload : Payload (Scalar τ) τ) :
    Payload.toValue payload.asWritten = payload.toValue :=
  mapValue_asWritten PayloadEntry.toValue payload

omit [DecidableEq τ] in
/-- A field is written alike if its value is. -/
lemma Field.toMembers_map {α : Type} {key : String} {write : α → Value τ} {f : α → α}
    (field : Field α) (h : ∀ a, field = .given a → write (f a) = write a) :
    (field.map f).toMembers key write = field.toMembers key write := by
  rcases field with _ | _ | a
  · rfl
  · rfl
  · rw [map, toMembers, toMembers, h a rfl]

lemma Action.toValue_renamed (a : Action τ) : a.renamed.toValue = a.toValue := by
  simp only [toValue, renamed, a.headers.toMembers_map fun p _ => textMapValue_asWritten p,
    a.payload.toMembers_map fun p _ => p.toValue_asWritten]

lemma Config.toValue_renamed (c : Config τ) : c.renamed.toValue = c.toValue := by
  simp only [toValue, renamed, c.endpoints.toMembers_map fun p _ => textMapValue_asWritten p,
    c.headers.toMembers_map fun p _ => textMapValue_asWritten p]

lemma Attributes.toMembers_renamed (a : Attributes τ) (kind : ComponentKind) :
    a.renamed.toMembers kind = a.toMembers kind := by
  simp only [toMembers, renamed,
    a.style.toMembers_map fun p _ => mapValue_asWritten StyleValue.toValue p]

namespace Component

lemma valuesOf_eq_map (cs : List (Component τ)) : valuesOf cs = cs.map toValue := by
  induction cs with
  | nil => rfl
  | cons c rest ih => rw [valuesOf, ih, List.map_cons]

/-- A container writes its children like any other field. -/
lemma toValue_container (a : Attributes τ) (r : Arrangement)
    (children : Field (List (Component τ))) :
    (container a r children).toValue = .obj (a.toMembers .container ++ r.toMembers ++
      children.toMembers "children" fun cs => .arr (cs.map toValue)) := by
  rcases children with _ | _ | cs <;> simp [toValue, Field.toMembers, valuesOf_eq_map]

lemma map_toValue_renamedAll {cs : List (Component τ)}
    (h : ∀ c ∈ cs, c.renamed.toValue = c.toValue) :
    (renamedAll cs).map toValue = cs.map toValue := by
  rw [renamedAll_eq_map, List.map_map]
  exact List.map_congr_left h

lemma toValue_renamed (c : Component τ) : c.renamed.toValue = c.toValue := by
  induction c using ind with
  | container a r children ih =>
      rw [renamed_container, toValue_container, toValue_container, a.toMembers_renamed,
        children.toMembers_map fun cs hcs => by rw [map_toValue_renamedAll (ih cs hcs)]]
  | text a content => rw [renamed, toValue, toValue, a.toMembers_renamed]
  | input a e => rw [renamed, toValue, toValue, a.toMembers_renamed]
  | button a content action =>
      rw [renamed, toValue, toValue, a.toMembers_renamed,
        action.toMembers_map fun a _ => a.toValue_renamed]

end Component

/-- A document under the names that are written is written alike. -/
theorem Document.toValue_renamed (d : Document τ) : d.renamed.toValue = d.toValue := by
  have hcomponents : (d.components.map Component.renamedAll).toMembers "components"
      (fun cs => Value.arr (Component.valuesOf cs)) =
        d.components.toMembers "components" fun cs => .arr (Component.valuesOf cs) :=
    d.components.toMembers_map fun cs _ => by
      rw [Component.valuesOf_eq_map, Component.valuesOf_eq_map,
        Component.map_toValue_renamedAll fun c _ => c.toValue_renamed]
  simp only [toValue, renamed, d.config.toMembers_map fun c _ => c.toValue_renamed,
    d.root.toValue_renamed, hcomponents]

/-- Names that are strings are written as they are. -/
@[simp]
lemma Document.renamed_string (d : Document) : d.renamed = d :=
  d.renamed_eq_self_iff.mpr fun _ _ => rfl

end

end LivePage
