/-
Inspection finds no defect exactly in what the lower grade of the grammar
admits.

* `ofPresent_eq_nil_iff`, `mapMember_eq_nil_iff`: members that may be missing,
  and objects whose entries are alike;
* `component_eq_nil_iff`: components, by recursion through the children;
* `inspectDocument_eq_nil_iff`: whole documents.
-/
import LivePage.Document.Inspection
import LivePage.Proofs.Grammar
import LivePage.Proofs.ValueInduction
import LivePage.Proofs.Words

namespace LivePage

namespace Inspection

open Grammar

variable {τ : Type}

/-! ### Plain values -/

@[simp]
lemma require_eq_nil_iff {holds : Bool} {place : Location τ} {problem : Problem} :
    require holds place problem = [] ↔ holds = true := by
  cases holds <;> simp [require]

@[simp]
lemma isText_iff {v : Value τ} : isText v = true ↔ IsText v := by
  cases v <;> simp [isText, Value.str?, IsText]

lemma isNumberOrText_iff {v : Value τ} : v.isNumberOrText = true ↔ IsTextOrNumber v := by
  constructor
  · intro h
    cases v with
    | str s => exact .str s
    | int n => exact .int n
    | num x => exact .num x
    | _ => simp [Value.isNumberOrText] at h
  · rintro (_ | _ | _) <;> rfl

lemma isNonNegative_num_iff {x : Double} :
    isNonNegative (.num x : Value τ) = true ↔ IsGap false (.num x : Value τ) := by
  cases x with
  | nan payload =>
      simp only [isNonNegative, Bool.false_eq_true, false_iff]
      rintro ⟨⟩
  | signed negative size =>
      cases negative with
      | false => simp [isNonNegative, Double.isNegative, IsGap.num size]
      | true =>
          simp only [isNonNegative, Double.isNegative, Bool.true_and, Bool.not_eq_true',
            bne_eq_false_iff_eq]
          constructor
          · intro h
            have hzero : size = .zero := by
              cases size
              simp_all [Magnitude.zero, Magnitude.ofRank]
            exact hzero ▸ .negativeZero
          · rintro ⟨⟩
            rfl

lemma isNonNegative_iff {v : Value τ} : isNonNegative v = true ↔ IsGap false v := by
  cases v with
  | int n =>
      rw [isNonNegative, decide_eq_true_iff]
      exact ⟨fun h => .int h (by simp), fun h => by cases h; assumption⟩
  | num x => exact isNonNegative_num_iff
  | _ =>
      simp only [isNonNegative, Bool.false_eq_true, false_iff]
      rintro ⟨⟩

/-! ### Members -/

variable [DecidableEq τ] [Textual τ]

/-- A member that may be missing has no defects when it is missing, or null, or has none. -/
lemma ofPresent_eq_nil_iff_of {ms : Members (Value τ) τ} {key : String}
    {inspect : Value τ → List (Defect τ)} {P : Value τ → Prop}
    (h : ∀ v, ms.get? key = some v → (inspect v = [] ↔ P v)) :
    ofPresent ms key inspect = [] ↔ Optional ms key P := by
  rw [ofPresent, Optional]
  rcases hv : ms.get? key with _ | v
  · simp
  · have hv := h v hv
    cases v <;> simp [hv]

lemma ofPresent_eq_nil_iff {ms : Members (Value τ) τ} {key : String}
    {inspect : Value τ → List (Defect τ)} {P : Value τ → Prop} (h : ∀ v, inspect v = [] ↔ P v) :
    ofPresent ms key inspect = [] ↔ Optional ms key P :=
  ofPresent_eq_nil_iff_of fun v _ => h v

lemma isSome_wordOf?_iff {α : Type} [Vocabulary α] {v : Value τ} :
    (wordOf? α v).isSome ↔ IsWord (Vocabulary.words α) v := by
  cases v <;> simp [wordOf?, Value.str?, IsWord, Vocabulary.isSome_ofText?_iff]

lemma wordOf?_eq_some_iff {α : Type} [Vocabulary α] [LawfulVocabulary α] {v : Value τ} {a : α} :
    wordOf? α v = some a ↔ v = .str (Vocabulary.text a) := by
  cases v <;> simp [wordOf?, Value.str?, Vocabulary.ofText?_eq_some_iff]

lemma textMember_eq_nil_iff {place : Location τ} {ms : Members (Value τ) τ} {key : String} :
    textMember place ms key = [] ↔ Optional ms key IsText :=
  ofPresent_eq_nil_iff fun _ => by simp

lemma wordMember_eq_nil_iff {α : Type} [Vocabulary α] {place : Location τ}
    {ms : Members (Value τ) τ} {key : String} :
    wordMember α place ms key = [] ↔ Optional ms key (IsWord (Vocabulary.words α)) :=
  ofPresent_eq_nil_iff fun _ => by rw [require_eq_nil_iff, isSome_wordOf?_iff]

/-- An object whose entries are alike has no defects when no entry has. -/
lemma mapMember_eq_nil_iff {place : Location τ} {ms : Members (Value τ) τ} {key : String}
    {inspect : Location τ → Value τ → List (Defect τ)} {P : Value τ → Prop}
    (h : ∀ place v, inspect place v = [] ↔ P v) :
    mapMember place ms key inspect = [] ↔ Optional ms key (IsMapOf P) := by
  refine ofPresent_eq_nil_iff fun v => ?_
  cases v <;> simp [IsMapOf, h]

lemma textMapMember_eq_nil_iff {place : Location τ} {ms : Members (Value τ) τ} {key : String} :
    textMapMember place ms key = [] ↔ Optional ms key (IsMapOf IsText) :=
  mapMember_eq_nil_iff fun _ _ => by simp

lemma requiredText_eq_nil_iff {place : Location τ} {ms : Members (Value τ) τ} {key : String} :
    requiredText place ms key = [] ↔ Required ms key IsText := by
  simp [requiredText, Required, Option.any_eq_true]

/-- Inspection of a text looks at its first name only. -/
lemma optionalText_iff {ms : Members (Value τ) τ} {key other : String} :
    OptionalText false ms key other ↔ Optional ms key IsText := by
  simp [OptionalText]

/-! ### Actions and configurations -/

lemma payloadEntry_eq_nil_iff {place : Location τ} {v : Value τ} :
    payloadEntry place v = [] ↔ IsPayloadEntry v := by
  constructor
  · intro h
    cases v with
    | null => exact .null
    | bool b => exact .bool b
    | int n => exact .int n
    | num x => exact .num x
    | str s => exact .str s
    | arr items => simp [payloadEntry, isScalar] at h
    | obj ms =>
        rw [payloadEntry, isScalar, if_neg Bool.false_ne_true] at h
        split at h
        · exact .binding ⟨_, by assumption, _, rfl⟩ (textMember_eq_nil_iff.mp h)
        · simp at h
  · intro h
    cases h with
    | binding component path =>
        obtain ⟨_, hget, s, rfl⟩ := component
        simpa [payloadEntry, isScalar, hget] using textMember_eq_nil_iff.mpr path
    | _ => rfl

lemma isSome_type_iff {α : Type} [Vocabulary α] {ms : Members (Value τ) τ} :
    ((ms.get? "type").bind (wordOf? α)).isSome ↔
      Required ms "type" (IsWord (Vocabulary.words α)) := by
  rw [Required]
  rcases ms.get? "type" with _ | v <;> simp [isSome_wordOf?_iff]

lemma payloadMember_eq_nil_iff {place : Location τ} {ms : Members (Value τ) τ} {key : String} :
    mapMember place ms key payloadEntry = [] ↔ Optional ms key (IsMapOf IsPayloadEntry) :=
  mapMember_eq_nil_iff fun _ _ => payloadEntry_eq_nil_iff

/-- The defects of an action come from its fields, each by itself. -/
lemma action_eq_nil_iff {place : Location τ} {v : Value τ} :
    action place v = [] ↔ IsAction false v := by
  cases v with
  | obj ms =>
      simp only [action, List.append_eq_nil_iff, require_eq_nil_iff, isSome_type_iff,
        textMember_eq_nil_iff, wordMember_eq_nil_iff, textMapMember_eq_nil_iff,
        payloadMember_eq_nil_iff, and_assoc]
      constructor
      · rintro ⟨type, endpoint, method, headers, success, error, payload⟩
        exact ⟨ms, rfl, type, endpoint, method, headers, payload, optionalText_iff.mpr success,
          optionalText_iff.mpr error⟩
      · rintro ⟨_, ⟨⟩, h⟩
        exact ⟨h.type, h.endpoint, h.method, h.headers, h.successMessage.1, h.errorMessage.1,
          h.payload⟩
  | _ => simp [action, IsAction]

lemma config_eq_nil_iff {place : Location τ} {v : Value τ} :
    config place v = [] ↔ IsConfig false v := by
  cases v with
  | obj ms =>
      simp only [config, List.append_eq_nil_iff, textMember_eq_nil_iff, textMapMember_eq_nil_iff,
        and_assoc]
      constructor
      · rintro ⟨token, endpoints, headers⟩
        exact ⟨ms, rfl, optionalText_iff.mpr token, endpoints, headers⟩
      · rintro ⟨_, ⟨⟩, h⟩
        exact ⟨h.authToken.1, h.endpoints, h.headers⟩
  | _ => simp [config, IsConfig]

/-! ### Components -/

lemma nonEmptyId_iff {ms : Members (Value τ) τ} :
    ((ms.get? "id").bind Value.str?).any (· != Textual.lit "") = true ↔
      Required ms "id" IsNonEmptyText := by
  rw [Required]
  rcases ms.get? "id" with _ | v
  · simp
  · cases v <;> simp [Value.str?, IsNonEmptyText]

lemma attributes_eq_nil_iff {place : Location τ} {ms : Members (Value τ) τ} :
    attributes place ms = [] ↔
      Required ms "type" (IsWord (Vocabulary.words ComponentKind)) ∧ AttributeFields false ms := by
  have hstyle : mapMember place ms "style"
      (fun place v => require v.isNumberOrText place .notTextOrNumber) = [] ↔
        Optional ms "style" (IsMapOf IsTextOrNumber) :=
    mapMember_eq_nil_iff fun _ _ => require_eq_nil_iff.trans isNumberOrText_iff
  simp only [attributes, List.append_eq_nil_iff, require_eq_nil_iff, nonEmptyId_iff,
    isSome_type_iff, hstyle, textMember_eq_nil_iff, and_assoc]
  constructor
  · rintro ⟨id, type, style, className⟩
    exact ⟨type, id, style, optionalText_iff.mpr className⟩
  · rintro ⟨type, h⟩
    exact ⟨h.id, type, h.style, h.className.1⟩

lemma arrangement_eq_nil_iff {place : Location τ} {ms : Members (Value τ) τ} :
    arrangement place ms = [] ↔ ArrangementFields false ms := by
  have hgap : ofPresent ms "gap"
      (fun v => require (isNonNegative v) (place.field "gap") .notNonNegative) = [] ↔
        Optional ms "gap" (IsGap false) :=
    ofPresent_eq_nil_iff fun _ => require_eq_nil_iff.trans isNonNegative_iff
  simp only [arrangement, List.append_eq_nil_iff, wordMember_eq_nil_iff, hgap, and_assoc]
  exact ⟨fun ⟨direction, gap, align⟩ => ⟨direction, gap, align⟩,
    fun h => ⟨h.direction, h.gap, h.align⟩⟩

lemma entry_eq_nil_iff {place : Location τ} {ms : Members (Value τ) τ} :
    textMember place ms "placeholder" ++ textMember place ms "value" ++
      textMember place ms "name" = [] ↔ EntryFields ms := by
  simp only [List.append_eq_nil_iff, textMember_eq_nil_iff, and_assoc]
  exact ⟨fun ⟨placeholder, value, name⟩ => ⟨placeholder, value, name⟩,
    fun h => ⟨h.placeholder, h.value, h.name⟩⟩

lemma type_eq_some_iff {ms : Members (Value τ) τ} {kind : ComponentKind} :
    (ms.get? "type").bind (wordOf? ComponentKind) = some kind ↔
      ms.get? "type" = some (.str (Vocabulary.text kind)) := by
  rcases ms.get? "type" with _ | v <;> simp [wordOf?_eq_some_iff]

/-- The children are a member like the others. -/
lemma children_eq {place : Location τ} {ms : Members (Value τ) τ} :
    children place ms = ofPresent ms "children" fun
      | .arr items => components place 0 items
      | _ => [⟨place, .notArray⟩] := by
  induction ms with
  | nil => simp [children, ofPresent, Members.get?_nil]
  | cons m rest ih =>
      obtain ⟨key, v⟩ := m
      rw [ofPresent, Members.get?_cons]
      by_cases hkey : key = "children"
      · subst hkey
        cases v <;> simp [children]
      · rw [if_neg (Ne.symm hkey), ← ofPresent, ← ih]
        cases v <;> simp [children, hkey]

/-- A list of components has no defects when no component has. -/
lemma components_eq_nil_iff {place : Location τ} {n : ℕ} {items : List (Value τ)}
    {P : Value τ → Prop} (h : ∀ v ∈ items, ∀ place, component place v = [] ↔ P v) :
    components place n items = [] ↔ ∀ v ∈ items, P v := by
  induction items generalizing n with
  | nil => simp [components]
  | cons v rest ih =>
      rw [List.forall_mem_cons] at h
      rw [components, List.append_eq_nil_iff, h.1, ih h.2, List.forall_mem_cons]

/-- A value that should be a list of components has no defects when it is a list and no element
has. -/
lemma componentList_eq_nil_iff {place : Location τ} {v : Value τ} {P : Value τ → Prop}
    (h : ∀ items, v = .arr items → ∀ w ∈ items, ∀ place, component place w = [] ↔ P w) :
    (match v with
      | .arr items => components place 0 items
      | _ => [⟨place, .notArray⟩]) = [] ↔ IsListOf P v := by
  cases v with
  | arr items => simp [IsListOf, components_eq_nil_iff (h items rfl)]
  | _ => simp [IsListOf]

lemma children_eq_nil_iff {place : Location τ} {ms : Members (Value τ) τ} {P : Value τ → Prop}
    (h : ∀ items, ms.get? "children" = some (.arr items) →
      ∀ v ∈ items, ∀ place, component place v = [] ↔ P v) :
    children place ms = [] ↔ Optional ms "children" (IsListOf P) := by
  rw [children_eq]
  refine ofPresent_eq_nil_iff_of fun v hget => componentList_eq_nil_iff ?_
  rintro items rfl
  exact h items hget

/-- **Inspection finds no defect in a value exactly when it is a well-formed component.** -/
theorem component_eq_nil_iff {place : Location τ} {v : Value τ} :
    component place v = [] ↔ IsComponent false v := by
  induction v using Value.treeInd generalizing place with
  | other v hv =>
      cases v with
      | obj ms => simp [Value.obj?] at hv
      | _ =>
          simp only [component, List.cons_ne_nil, false_iff]
          rintro ⟨⟩
  | obj ms ih =>
      rw [component, List.append_eq_nil_iff, attributes_eq_nil_iff]
      rcases hkind : (Members.get? ms "type").bind (wordOf? ComponentKind) with _ | kind
      · have hword : ¬Required ms "type" (IsWord (Vocabulary.words ComponentKind)) := by
          rw [← isSome_type_iff, hkind]
          exact Bool.false_ne_true
        exact ⟨fun h => absurd h.1.1 hword, fun h => absurd h.required_type hword⟩
      · have htype := type_eq_some_iff.mp hkind
        have hword : Required ms "type" (IsWord (Vocabulary.words ComponentKind)) :=
          ⟨_, htype, _, Vocabulary.text_mem_words kind, rfl⟩
        cases kind with
        | container =>
            rw [isComponent_container_iff htype]
            simp only [hword, true_and, List.append_eq_nil_iff, arrangement_eq_nil_iff,
              children_eq_nil_iff fun items hget v hv place => ih _ items hget v hv]
        | text =>
            rw [isComponent_text_iff htype]
            simp only [hword, true_and, requiredText_eq_nil_iff]
        | input =>
            rw [isComponent_input_iff htype]
            simp only [hword, true_and, entry_eq_nil_iff]
        | button =>
            rw [isComponent_button_iff htype]
            simp only [hword, true_and, List.append_eq_nil_iff, requiredText_eq_nil_iff,
              ofPresent_eq_nil_iff fun _ => action_eq_nil_iff]

/-- A missing root and a null one are defects alike, so both stand for no component. -/
lemma root_eq_nil_iff {ms : Members (Value τ) τ} :
    (match ms.get? "root" with
      | none | some .null => [⟨[.name (Textual.lit "root")], .required⟩]
      | some v => component [.name (Textual.lit "root")] v) = [] ↔
      Required ms "root" (IsComponent false) := by
  rw [Required]
  rcases ms.get? "root" with _ | v
  · simp
  · cases v with
    | null =>
        simp only [List.cons_ne_nil, false_iff]
        rintro ⟨_, ⟨⟩, ⟨⟩⟩
    | _ => simp [component_eq_nil_iff]

/-- The components that are never shown are inspected like the children of a container. -/
lemma registry_eq_nil_iff {ms : Members (Value τ) τ} {place : Location τ} :
    ofPresent ms "components" (fun
      | .arr items => components place 0 items
      | _ => [⟨place, .notArray⟩]) = [] ↔
        Optional ms "components" (IsListOf (IsComponent false)) := by
  exact ofPresent_eq_nil_iff fun _ => componentList_eq_nil_iff fun _ _ _ _ _ =>
    component_eq_nil_iff

end Inspection

open Inspection Grammar in
/-- **Inspection finds no defect exactly in the documents of the lower grade.** -/
theorem inspectDocument_eq_nil_iff {τ : Type} [DecidableEq τ] [Textual τ] {v : Value τ} :
    inspectDocument v = [] ↔ IsDocument false v := by
  cases v with
  | obj ms =>
      have hconfig : ofPresent ms "config" (config [.name (Textual.lit "config")]) = [] ↔
          Optional ms "config" (IsConfig false) := ofPresent_eq_nil_iff fun _ => config_eq_nil_iff
      simp only [inspectDocument, List.append_eq_nil_iff, hconfig, textMember_eq_nil_iff, and_assoc]
      constructor
      · rintro ⟨root, components, config, name, version⟩
        exact ⟨ms, rfl, root_eq_nil_iff.mp root, registry_eq_nil_iff.mp components, config, name,
          version⟩
      · rintro ⟨_, ⟨⟩, h⟩
        exact ⟨root_eq_nil_iff.mpr h.root, registry_eq_nil_iff.mpr h.components, h.config, h.name,
          h.version⟩
  | _ => simp [inspectDocument, IsDocument]

end LivePage
