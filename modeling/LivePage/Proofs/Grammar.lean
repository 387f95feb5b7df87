/-
The grammar of documents, apart from any way of checking it.

* `Required`, `Optional`: what is asked of a member that must be there, and of
  one that may be left out or null;
* `IsAction`, `IsConfig`, `IsComponent`, `IsDocument`: the well-formed parts of
  a document, of which the components are an inductive predicate;
* `HoldsComponent`, `DocumentHoldsComponent`: how many containers stand around
  a component.

The grammar has two grades. The lower one is about the fields under the names
that documents use. The strict one also asks that an integer for a gap is not
too large for a double, and that a second name which stands in for a missing
first one holds a text or null.
-/
import LivePage.Document.Vocabulary
import LivePage.Proofs.DoubleRange
import LivePage.Value.Basic

namespace LivePage.Grammar

variable {τ : Type}

/-! ### Plain values, maps and lists -/

def IsText (v : Value τ) : Prop := ∃ s, v = .str s

/-- A text or a number. Booleans are no numbers. -/
inductive IsTextOrNumber : Value τ → Prop
  | str (s : τ) : IsTextOrNumber (.str s)
  | int (n : ℤ) : IsTextOrNumber (.int n)
  | num (x : Double) : IsTextOrNumber (.num x)

/-- A number that is not negative. Not-a-number is none, and negative zero is one. In the strict
grade an integer rounds to a finite double. -/
inductive IsGap (strict : Bool) : Value τ → Prop
  | int {n : ℤ} (h : 0 ≤ n) (hfits : strict = true → n < Double.integerBound) :
      IsGap strict (.int n)
  | num (size : Magnitude) : IsGap strict (.num (.signed false size))
  | negativeZero : IsGap strict (.num (.signed true .zero))

/-- An object all of whose values have a property. -/
def IsMapOf (P : Value τ → Prop) (v : Value τ) : Prop := ∃ ms, v = .obj ms ∧ ∀ m ∈ ms, P m.2

/-- A list all of whose elements have a property. -/
def IsListOf (P : Value τ → Prop) (v : Value τ) : Prop :=
  ∃ items, v = .arr items ∧ ∀ w ∈ items, P w

variable [Textual τ]

def IsNonEmptyText (v : Value τ) : Prop := ∃ s, v = .str s ∧ s ≠ Textual.lit ""

/-- A text that is one of some words. -/
def IsWord (words : List String) (v : Value τ) : Prop :=
  ∃ word ∈ words, v = .str (Textual.lit word)

/-! ### Members -/

variable [DecidableEq τ]

/-- A member is there, and its value has a property. -/
def Required (ms : Members (Value τ) τ) (key : String) (P : Value τ → Prop) : Prop :=
  ∃ v, ms.get? key = some v ∧ P v

/-- If a member is there and not null, its value has a property. -/
def Optional (ms : Members (Value τ) τ) (key : String) (P : Value τ → Prop) : Prop :=
  ∀ v, ms.get? key = some v → v ≠ .null → P v

/-- The elements of a list under a name, none when the member is left out or null. -/
inductive Elements (ms : Members (Value τ) τ) (key : String) : List (Value τ) → Prop
  | absent (h : ms.get? key = none) : Elements ms key []
  | null (h : ms.get? key = some .null) : Elements ms key []
  | given {items : List (Value τ)} (h : ms.get? key = some (.arr items)) : Elements ms key items

/-- A text under a name, or under a second name that stands in for a missing first one. Only the
strict grade looks at the second name. -/
def OptionalText (strict : Bool) (ms : Members (Value τ) τ) (key other : String) : Prop :=
  Optional ms key IsText ∧ (strict = true → ms.get? key = none → Optional ms other IsText)

/-! ### Actions and configurations -/

/-- A plain value, or an object that names a component and perhaps a path. -/
inductive IsPayloadEntry : Value τ → Prop
  | null : IsPayloadEntry .null
  | bool (b : Bool) : IsPayloadEntry (.bool b)
  | int (n : ℤ) : IsPayloadEntry (.int n)
  | num (x : Double) : IsPayloadEntry (.num x)
  | str (s : τ) : IsPayloadEntry (.str s)
  | binding {ms : Members (Value τ) τ} (component : Required ms "component" IsText)
      (path : Optional ms "path" IsText) : IsPayloadEntry (.obj ms)

structure ActionFields (strict : Bool) (ms : Members (Value τ) τ) : Prop where
  type : Required ms "type" (IsWord ["log", "api_call"])
  endpoint : Optional ms "endpoint" IsText
  method : Optional ms "method" (IsWord ["GET", "POST", "PUT", "PATCH", "DELETE"])
  headers : Optional ms "headers" (IsMapOf IsText)
  payload : Optional ms "payload" (IsMapOf IsPayloadEntry)
  successMessage : OptionalText strict ms "successMessage" "success_message"
  errorMessage : OptionalText strict ms "errorMessage" "error_message"

def IsAction (strict : Bool) (v : Value τ) : Prop := ∃ ms, v = .obj ms ∧ ActionFields strict ms

structure ConfigFields (strict : Bool) (ms : Members (Value τ) τ) : Prop where
  authToken : OptionalText strict ms "authToken" "auth_token"
  endpoints : Optional ms "endpoints" (IsMapOf IsText)
  headers : Optional ms "headers" (IsMapOf IsText)

def IsConfig (strict : Bool) (v : Value τ) : Prop := ∃ ms, v = .obj ms ∧ ConfigFields strict ms

/-! ### Components and documents -/

/-- What all components need besides their type. -/
structure AttributeFields (strict : Bool) (ms : Members (Value τ) τ) : Prop where
  id : Required ms "id" IsNonEmptyText
  style : Optional ms "style" (IsMapOf IsTextOrNumber)
  className : OptionalText strict ms "className" "class_name"

structure ArrangementFields (strict : Bool) (ms : Members (Value τ) τ) : Prop where
  direction : Optional ms "direction" (IsWord ["row", "column"])
  gap : Optional ms "gap" (IsGap strict)
  align : Optional ms "align" (IsWord ["start", "center", "end", "between"])

structure EntryFields (ms : Members (Value τ) τ) : Prop where
  placeholder : Optional ms "placeholder" IsText
  value : Optional ms "value" IsText
  name : Optional ms "name" IsText

/-- **Well-formed components**: objects of one of four types. The children of a container are
well-formed components again. -/
inductive IsComponent (strict : Bool) : Value τ → Prop
  | container {ms : Members (Value τ) τ} {items : List (Value τ)}
      (type : ms.get? "type" = some (.str "container")) (attributes : AttributeFields strict ms)
      (arrangement : ArrangementFields strict ms) (children : Elements ms "children" items)
      (each : ∀ v ∈ items, IsComponent strict v) : IsComponent strict (.obj ms)
  | text {ms : Members (Value τ) τ} (type : ms.get? "type" = some (.str "text"))
      (attributes : AttributeFields strict ms) (text : Required ms "text" IsText) :
      IsComponent strict (.obj ms)
  | input {ms : Members (Value τ) τ} (type : ms.get? "type" = some (.str "input"))
      (attributes : AttributeFields strict ms) (entry : EntryFields ms) :
      IsComponent strict (.obj ms)
  | button {ms : Members (Value τ) τ} (type : ms.get? "type" = some (.str "button"))
      (attributes : AttributeFields strict ms) (text : Required ms "text" IsText)
      (action : Optional ms "action" (IsAction strict)) : IsComponent strict (.obj ms)

structure DocumentFields (strict : Bool) (ms : Members (Value τ) τ) : Prop where
  root : Required ms "root" (IsComponent strict)
  components : Optional ms "components" (IsListOf (IsComponent strict))
  config : Optional ms "config" (IsConfig strict)
  name : Optional ms "name" IsText
  version : Optional ms "version" IsText

/-- **Well-formed documents.** -/
def IsDocument (strict : Bool) (v : Value τ) : Prop := ∃ ms, v = .obj ms ∧ DocumentFields strict ms

/-! ### Containers inside containers -/

/-- A component in a component, and the containers of the latter around it. It is the component
itself, or in a child of the component when that is a container. -/
inductive HoldsComponent : ℕ → Value τ → Prop
  | self (v : Value τ) : HoldsComponent 0 v
  | child {ms : Members (Value τ) τ} {items : List (Value τ)} {v : Value τ} {around : ℕ}
      (type : ms.get? "type" = some (.str "container"))
      (children : ms.get? "children" = some (.arr items)) (hv : v ∈ items)
      (h : HoldsComponent around v) : HoldsComponent (around + 1) (.obj ms)

/-- A component in the root of a document or in one of those it lists, and the containers around
it. -/
inductive DocumentHoldsComponent : ℕ → Value τ → Prop
  | root {ms : Members (Value τ) τ} {v : Value τ} {around : ℕ} (root : ms.get? "root" = some v)
      (h : HoldsComponent around v) : DocumentHoldsComponent around (.obj ms)
  | listed {ms : Members (Value τ) τ} {items : List (Value τ)} {v : Value τ} {around : ℕ}
      (components : ms.get? "components" = some (.arr items)) (hv : v ∈ items)
      (h : HoldsComponent around v) : DocumentHoldsComponent around (.obj ms)

/-! ### Components of a known type -/

/-- The elements under a name are given as a list or not at all. -/
lemma exists_elements_iff {ms : Members (Value τ) τ} {key : String} {P : Value τ → Prop} :
    (∃ items, Elements ms key items ∧ ∀ v ∈ items, P v) ↔ Optional ms key (IsListOf P) := by
  constructor
  · rintro ⟨items, hget | hget | hget, each⟩ v hv hnull
    all_goals simp_all [IsListOf]
  · intro h
    rcases hget : ms.get? key with _ | v
    · exact ⟨[], .absent hget, by simp⟩
    · by_cases hv : v = .null
      · exact ⟨[], .null (hv ▸ hget), by simp⟩
      · obtain ⟨items, rfl, each⟩ := h v hget hv
        exact ⟨items, .given hget, each⟩

section

variable {strict : Bool} {ms : Members (Value τ) τ}

lemma IsComponent.exists_kind (h : IsComponent strict (.obj ms)) :
    ∃ kind : ComponentKind, ms.get? "type" = some (.str (Vocabulary.text kind)) := by
  rcases h with ⟨type⟩ | ⟨type⟩ | ⟨type⟩ | ⟨type⟩
  · exact ⟨.container, type⟩
  · exact ⟨.text, type⟩
  · exact ⟨.input, type⟩
  · exact ⟨.button, type⟩

/-- A component has one of the four types. -/
lemma IsComponent.required_type (h : IsComponent strict (.obj ms)) :
    Required ms "type" (IsWord ["container", "text", "input", "button"]) := by
  rcases h with ⟨type⟩ | ⟨type⟩ | ⟨type⟩ | ⟨type⟩ <;> exact ⟨_, type, _, by simp, rfl⟩

lemma isComponent_container_iff (htype : ms.get? "type" = some (.str "container")) :
    IsComponent strict (.obj ms) ↔ AttributeFields strict ms ∧ ArrangementFields strict ms ∧
      Optional ms "children" (IsListOf (IsComponent strict)) := by
  rw [← exists_elements_iff]
  constructor
  · rintro (⟨_, attributes, arrangement, children, each⟩ | ⟨type⟩ | ⟨type⟩ | ⟨type⟩)
    · exact ⟨attributes, arrangement, _, children, each⟩
    all_goals simp [htype] at type
  · rintro ⟨attributes, arrangement, items, children, each⟩
    exact .container htype attributes arrangement children each

/-- A component that is no container holds itself alone. -/
lemma holdsComponent_iff_eq_zero {kind : String} {around : ℕ}
    (htype : ms.get? "type" = some (.str (Textual.lit kind))) (hkind : kind ≠ "container") :
    HoldsComponent around (.obj ms) ↔ around = 0 := by
  constructor
  · rintro (_ | ⟨type⟩)
    · rfl
    · simp [type, hkind.symm] at htype
  · rintro rfl
    exact .self _

/-- A container holds itself and what its children hold. -/
lemma holdsComponent_iff {around : ℕ} (htype : ms.get? "type" = some (.str "container")) :
    HoldsComponent around (.obj ms) ↔ around = 0 ∨ ∃ items v inner,
      ms.get? "children" = some (.arr items) ∧ v ∈ items ∧ HoldsComponent inner v ∧
      around = inner + 1 := by
  constructor
  · rintro (_ | ⟨-, children, hv, h⟩)
    · exact .inl rfl
    · exact .inr ⟨_, _, _, children, hv, h, rfl⟩
  · rintro (rfl | ⟨items, v, inner, children, hv, h, rfl⟩)
    · exact .self _
    · exact .child htype children hv h

lemma isComponent_text_iff (htype : ms.get? "type" = some (.str "text")) :
    IsComponent strict (.obj ms) ↔ AttributeFields strict ms ∧ Required ms "text" IsText := by
  constructor
  · rintro (⟨type⟩ | ⟨_, attributes, text⟩ | ⟨type⟩ | ⟨type⟩)
    case text => exact ⟨attributes, text⟩
    all_goals simp [htype] at type
  · rintro ⟨attributes, text⟩
    exact .text htype attributes text

lemma isComponent_input_iff (htype : ms.get? "type" = some (.str "input")) :
    IsComponent strict (.obj ms) ↔ AttributeFields strict ms ∧ EntryFields ms := by
  constructor
  · rintro (⟨type⟩ | ⟨type⟩ | ⟨_, attributes, entry⟩ | ⟨type⟩)
    case input => exact ⟨attributes, entry⟩
    all_goals simp [htype] at type
  · rintro ⟨attributes, entry⟩
    exact .input htype attributes entry

lemma isComponent_button_iff (htype : ms.get? "type" = some (.str "button")) :
    IsComponent strict (.obj ms) ↔ AttributeFields strict ms ∧ Required ms "text" IsText ∧
      Optional ms "action" (IsAction strict) := by
  constructor
  · rintro (⟨type⟩ | ⟨type⟩ | ⟨type⟩ | ⟨_, attributes, text, action⟩)
    case button => exact ⟨attributes, text, action⟩
    all_goals simp [htype] at type
  · rintro ⟨attributes, text, action⟩
    exact .button htype attributes text action

end

end LivePage.Grammar
