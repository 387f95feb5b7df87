/-
Reading decides the strict grade of the grammar, for what the lower grade
admits. A reader decides a property if it reads exactly what has it, and gives
at least one issue otherwise.

* `Checked.Decides`: readers that decide a property, and how it is passed on by
  the ways to combine readers;
* `component_decides`: components, by recursion through the children;
* `document_decides`: whole documents.
-/
import LivePage.Document.Reader
import LivePage.Proofs.Grammar
import LivePage.Proofs.ValueInduction
import LivePage.Proofs.Words

namespace LivePage

/-! ### Readers that decide -/

namespace Checked

variable {τ α β : Type} {c : Checked τ α} {p q : Prop}

/-- A value is read if a property holds, and otherwise there is an issue. -/
def Decides (c : Checked τ α) (p : Prop) : Prop :=
  match c with
  | .ok _ => p
  | .issues found => found ≠ [] ∧ ¬p

lemma Decides.ok {a : α} (hp : p) : Decides (.ok a : Checked τ α) p := hp

lemma Decides.fail {place : Location τ} {mismatch : Mismatch} (hp : ¬p) :
    Decides (Checked.fail place mismatch : Checked τ α) p :=
  ⟨by simp, hp⟩

lemma Decides.congr (h : Decides c p) (hpq : p ↔ q) : Decides c q := by
  rwa [← propext hpq]

lemma Decides.map {f : α → β} (h : Decides c p) : Decides (c.map f) p := by
  cases c <;> exact h

/-- Two readings one after the other decide the conjunction. -/
lemma Decides.seq {f : Checked τ (α → β)} (hf : Decides f p) (hc : Decides c q) :
    Decides (f <*> c) (p ∧ q) := by
  cases f with
  | ok g =>
      cases c with
      | ok a => exact ⟨hf, hc⟩
      | issues found => exact ⟨hc.1, fun h => hc.2 h.2⟩
  | issues found =>
      cases c with
      | ok a => exact ⟨hf.1, fun h => hf.2 h.1⟩
      | issues more => exact ⟨by simp [hf.1], fun h => hf.2 h.1⟩

/-- A deciding reader gives a value exactly if the property holds. -/
lemma Decides.exists_ok_iff (h : Decides c p) : (∃ a, c = .ok a) ↔ p := by
  cases c with
  | ok a => exact iff_of_true ⟨a, rfl⟩ h
  | issues found => exact iff_of_false (by simp) h.2

lemma Decides.of_ok {a : α} (h : Decides c p) (hc : c = .ok a) : p :=
  h.exists_ok_iff.mp ⟨a, hc⟩

lemma Decides.issues_ne_nil {found : List (Issue τ)} (h : Decides c p) (hc : c = .issues found) :
    found ≠ [] := by
  subst hc
  exact h.1

end Checked

namespace Reading

open Checked Grammar

variable {τ α : Type} {place : Location τ} {ms : Members (Value τ) τ} {key : String} {v : Value τ}
  {read : Location τ → Value τ → Checked τ α} {P : Value τ → Prop} {around : ℕ}

/-! ### Plain values, and objects whose entries are alike -/

lemma text_decides (place : Location τ) (v : Value τ) : Decides (text place v) (IsText v) := by
  cases v with
  | str s => exact .ok ⟨s, rfl⟩
  | _ => exact .fail (by simp [IsText])

lemma entries_decides (h : ∀ place v, Decides (read place v) (P v)) :
    Decides (entries place read ms) (∀ m ∈ ms, P m.2) := by
  induction ms with
  | nil => exact .ok (by simp)
  | cons m rest ih =>
      rw [List.forall_mem_cons]
      exact (h _ m.2).map.seq ih

lemma map_decides (h : ∀ place v, Decides (read place v) (P v)) (place : Location τ) (v : Value τ) :
    Decides (map read place v) (IsMapOf P v) := by
  cases v with
  | obj ms => exact (entries_decides h).congr (by simp [IsMapOf])
  | _ => exact .fail (by simp [IsMapOf])

lemma textMap_decides (place : Location τ) (v : Value τ) :
    Decides (textMap place v) (IsMapOf IsText v) :=
  map_decides text_decides place v

/-- A gap of the lower grade is read if it is not an integer that rounds to infinity. -/
lemma double_decides (h : IsGap false v) : Decides (double place v) (IsGap true v) := by
  cases h with
  | @int n hn =>
      have hfits : (Double.ofInt n).isInfinite = true ↔ ¬IsGap true (.int n : Value τ) := by
        rw [Double.isInfinite_ofInt_iff hn, ← not_lt, not_iff_not]
        exact ⟨fun h => .int hn fun _ => h, fun | .int _ h => h rfl⟩
      simp only [double]
      split
      · exact .fail (hfits.mp (by assumption))
      · exact .ok (not_not.mp (mt hfits.mpr (by assumption)))
  | num size => exact .ok (.num size)
  | negativeZero => exact .ok .negativeZero

variable [Textual τ]

lemma styleValue_decides (place : Location τ) (v : Value τ) :
    Decides (styleValue place v) (IsTextOrNumber v) := by
  cases v with
  | str s => exact .ok (.str s)
  | int n => exact .ok (.int n)
  | num x => exact .ok (.num x)
  | _ => exact ⟨by simp, nofun⟩

lemma path_decides (place : Location τ) (v : Value τ) :
    Decides (path place v) (v ≠ .null → IsText v) := by
  by_cases hv : v = .null
  · subst hv
    exact .ok (by simp)
  · have hpath : path place v = text place v := by
      cases v <;> first | exact absurd rfl hv | rfl
    rw [hpath]
    exact (text_decides place v).congr (by simp [hv])

/-! ### Fields -/

variable [DecidableEq τ]

lemma required_decides (h : ∀ place v, Decides (read place v) (P v)) :
    Decides (required place ms key read) (Required ms key P) := by
  rw [required, Required]
  rcases ms.get? key with _ | v
  · exact .fail (by simp)
  · exact (h _ v).congr (by simp)

/-- A field that is there and not null is given. -/
lemma optional_eq_map (hget : ms.get? key = some v) (hv : v ≠ .null) :
    optional place ms key read = (read (place.field key) v).map .given := by
  rw [optional, hget]
  cases v <;> first | exact absurd rfl hv | rfl

/-- What is asked of a field may already be known of the value that is there. -/
lemma optional_decides_of
    (h : ∀ place v, ms.get? key = some v → v ≠ .null → Decides (read place v) (P v)) :
    Decides (optional place ms key read) (Optional ms key P) := by
  rw [Optional]
  rcases hget : ms.get? key with _ | v
  · rw [optional, hget]
    exact .ok (by simp)
  · by_cases hv : v = .null
    · rw [optional, hget, hv]
      exact .ok (by simp)
    · rw [optional_eq_map hget hv]
      exact (h _ v hget hv).map.congr (by simp [hv])

lemma optional_decides (h : ∀ place v, Decides (read place v) (P v)) :
    Decides (optional place ms key read) (Optional ms key P) :=
  optional_decides_of fun place v _ _ => h place v

lemma word_decides {α : Type} [Vocabulary α] (place : Location τ) (v : Value τ) :
    Decides (word α place v) (IsWord (Vocabulary.words α) v) := by
  rw [word]
  cases v with
  | str s =>
      simp only [Value.str?, Option.bind_some]
      rcases hword : Vocabulary.ofText? α s with _ | a
      · refine .fail ?_
        simp [IsWord, ← Vocabulary.isSome_ofText?_iff, hword]
      · refine .ok ?_
        simp [IsWord, ← Vocabulary.isSome_ofText?_iff, hword]
  | _ => exact .fail (by simp [IsWord])

/-- A text is looked for under its second name only when the first is missing. -/
lemma optionalText_decides {other : String} :
    Decides (optionalEither place ms key other text) (OptionalText true ms key other) := by
  rw [optionalEither, Members.has, OptionalText]
  refine (optional_decides text_decides).congr ?_
  rcases hget : ms.get? key with _ | v <;> simp [Optional, hget]

/-! ### Payloads, actions and configurations -/

/-- An object is an entry of a payload just when it is a binding. -/
lemma binding_decides : Decides (binding place (.obj ms)) (IsPayloadEntry (.obj ms)) := by
  have hpath : Decides (bindingPath place ms) (Optional ms "path" IsText) := by
    rw [Optional, bindingPath]
    rcases ms.get? "path" with _ | v
    · exact .ok (by simp)
    · exact (path_decides _ v).congr (by simp)
  refine ((required_decides text_decides).map.seq hpath).congr ?_
  constructor
  · rintro ⟨component, path⟩
    exact .binding component path
  · intro h
    cases h with
    | binding component path => exact ⟨component, path⟩

lemma payloadEntry_decides (place : Location τ) (v : Value τ) :
    Decides (payloadEntry place v) (IsPayloadEntry v) := by
  cases v with
  | obj ms => exact binding_decides.map
  | null => exact .ok .null
  | bool b => exact .ok (.bool b)
  | int n => exact .ok (.int n)
  | num x => exact .ok (.num x)
  | str s => exact .ok (.str s)
  | arr items => exact ⟨by simp, nofun⟩

lemma payloadEntries_decides :
    Decides (payloadEntries place ms) (∀ m ∈ ms, IsPayloadEntry m.2) := by
  induction ms with
  | nil => exact .ok (by simp)
  | cons m rest ih =>
      obtain ⟨key, v⟩ := m
      have hv := payloadEntry_decides place v
      rw [payloadEntries, List.forall_mem_cons]
      rcases hread : payloadEntry place v with entry | found
      · rw [hread] at hv
        exact ih.map.congr (iff_and_self.mpr fun _ => hv)
      · rw [hread] at hv
        exact ⟨hv.1, fun h => hv.2 h.1⟩

lemma payload_decides (place : Location τ) (v : Value τ) :
    Decides (payload place v) (IsMapOf IsPayloadEntry v) := by
  cases v with
  | obj ms => exact payloadEntries_decides.congr (by simp [IsMapOf])
  | _ => exact .fail (by simp [IsMapOf])

lemma action_decides (place : Location τ) (v : Value τ) :
    Decides (action place v) (IsAction true v) := by
  cases v with
  | obj ms =>
      refine ((((((required_decides word_decides).map.seq (optional_decides text_decides)).seq
        (optional_decides word_decides)).seq (optional_decides textMap_decides)).seq
        (optional_decides payload_decides)).seq optionalText_decides).seq
        optionalText_decides |>.congr ?_
      simp only [and_assoc]
      constructor
      · rintro ⟨type, endpoint, method, headers, payload, success, error⟩
        exact ⟨ms, rfl, type, endpoint, method, headers, payload, success, error⟩
      · rintro ⟨_, ⟨⟩, h⟩
        exact ⟨h.type, h.endpoint, h.method, h.headers, h.payload, h.successMessage,
          h.errorMessage⟩
  | _ => exact .fail (by simp [IsAction])

lemma config_decides (place : Location τ) (v : Value τ) :
    Decides (config place v) (IsConfig true v) := by
  cases v with
  | obj ms =>
      refine (optionalText_decides.map.seq (optional_decides textMap_decides)).seq
        (optional_decides textMap_decides) |>.congr ?_
      simp only [and_assoc]
      constructor
      · rintro ⟨token, endpoints, headers⟩
        exact ⟨ms, rfl, token, endpoints, headers⟩
      · rintro ⟨_, ⟨⟩, h⟩
        exact ⟨h.authToken, h.endpoints, h.headers⟩
  | _ => exact .fail (by simp [IsConfig])

/-! ### Components -/

lemma id_decides (h : Required ms "id" IsNonEmptyText) :
    Decides (required place ms "id" text) (Required ms "id" IsNonEmptyText) := by
  obtain ⟨v, hget, s, rfl, hs⟩ := h
  rw [required, hget]
  exact .ok ⟨_, hget, s, rfl, hs⟩

lemma attributes_decides (h : AttributeFields false ms) :
    Decides (attributes place ms) (AttributeFields true ms) := by
  refine ((id_decides h.id).map.seq (optional_decides (map_decides styleValue_decides))).seq
    optionalText_decides |>.congr ?_
  exact ⟨fun ⟨⟨id, style⟩, className⟩ => ⟨id, style, className⟩,
    fun h => ⟨⟨h.id, h.style⟩, h.className⟩⟩

lemma arrangement_decides (h : ArrangementFields false ms) :
    Decides (arrangement place ms) (ArrangementFields true ms) := by
  have hgap : Decides (optional place ms "gap" double) (Optional ms "gap" (IsGap true)) :=
    optional_decides_of fun _ v hget hv => double_decides (h.gap v hget hv)
  refine ((optional_decides word_decides).map.seq hgap).seq (optional_decides word_decides)
    |>.congr ?_
  exact ⟨fun ⟨⟨direction, gap⟩, align⟩ => ⟨direction, gap, align⟩,
    fun h => ⟨⟨h.direction, h.gap⟩, h.align⟩⟩

lemma entry_decides : Decides (entry place ms) (EntryFields ms) := by
  refine ((optional_decides text_decides).map.seq (optional_decides text_decides)).seq
    (optional_decides text_decides) |>.congr ?_
  exact ⟨fun ⟨⟨placeholder, value⟩, name⟩ => ⟨placeholder, value, name⟩,
    fun h => ⟨⟨h.placeholder, h.value⟩, h.name⟩⟩

/-- The children are read like any other member. -/
lemma children_eq :
    children around (place.field "children") ms =
      optional place ms "children" (componentList around) := by
  induction ms with
  | nil => simp [children, optional, Members.get?_nil]
  | cons m rest ih =>
      obtain ⟨key, v⟩ := m
      rw [optional, Members.get?_cons]
      by_cases hkey : key = "children"
      · subst hkey
        cases v <;> simp [children, componentList, Checked.fail, Checked.map]
      · rw [if_neg (Ne.symm hkey), ← optional, ← ih]
        cases v <;> simp [children, hkey]

lemma components_decides {n : ℕ} {items : List (Value τ)}
    (h : ∀ v ∈ items, ∀ place, Decides (component around place v) (P v)) :
    Decides (components around place n items) (∀ v ∈ items, P v) := by
  induction items generalizing n with
  | nil => exact .ok (by simp)
  | cons v rest ih =>
      rw [List.forall_mem_cons] at h ⊢
      exact (h.1 _).map.seq (ih h.2)

lemma componentList_decides
    (h : ∀ items, v = .arr items → ∀ w ∈ items, ∀ place,
      Decides (component around place w) (P w)) :
    Decides (componentList around place v) (IsListOf P v) := by
  cases v with
  | arr items => exact (components_decides (h items rfl)).congr (by simp [IsListOf])
  | _ => exact .fail (by simp [IsListOf])

lemma kind_eq_some (kind : ComponentKind)
    (type : ms.get? "type" = some (.str (Vocabulary.text kind))) :
    ((ms.get? "type").bind fun v => v.str?.bind (Vocabulary.ofText? ComponentKind)) =
      some kind := by
  simp [type, Value.str?]

lemma required_and_iff {Q : Value τ → Prop} :
    Required ms key (fun v => P v ∧ Q v) ↔
      Required ms key P ∧ ∀ v, ms.get? key = some v → Q v := by
  constructor
  · rintro ⟨v, hget, hP, hQ⟩
    refine ⟨⟨v, hget, hP⟩, fun w hw => ?_⟩
    obtain rfl : v = w := Option.some.inj (hget.symm.trans hw)
    exact hQ
  · rintro ⟨⟨v, hget, hP⟩, hQ⟩
    exact ⟨v, hget, hP, hQ v hget⟩

lemma optional_isListOf_and_iff {Q : Value τ → Prop} :
    Optional ms key (IsListOf fun v => P v ∧ Q v) ↔
      Optional ms key (IsListOf P) ∧
        ∀ items, ms.get? key = some (.arr items) → ∀ v ∈ items, Q v := by
  constructor
  · intro h
    refine ⟨fun v hget hv => ?_, fun items hget v hv => ?_⟩
    · obtain ⟨items, rfl, each⟩ := h v hget hv
      exact ⟨items, rfl, fun w hw => (each w hw).1⟩
    · obtain ⟨_, ⟨⟩, each⟩ := h _ hget nofun
      exact (each v hv).2
  · rintro ⟨hP, hQ⟩ v hget hv
    obtain ⟨items, rfl, each⟩ := hP v hget hv
    exact ⟨items, rfl, fun w hw => ⟨each w hw, hQ items hget w hw⟩⟩

/-- No component in a component is inside too many containers, when there are `around` containers
around it. -/
def HasRoom (around : ℕ) (v : Value τ) : Prop :=
  ∀ inner, HoldsComponent inner v → around + inner < containerLimit

lemma HasRoom.lt {v : Value τ} (h : HasRoom around v) : around < containerLimit := h 0 (.self v)

lemma hasRoom_iff_lt {kind : String} (type : ms.get? "type" = some (.str (Textual.lit kind)))
    (hkind : kind ≠ "container") : HasRoom around (.obj ms) ↔ around < containerLimit := by
  simp [HasRoom, holdsComponent_iff_eq_zero type hkind]

/-- A container has room if there is room for itself and its children have room inside it. -/
lemma hasRoom_container_iff (type : ms.get? "type" = some (.str "container")) :
    HasRoom around (.obj ms) ↔ around < containerLimit ∧
      ∀ items, ms.get? "children" = some (.arr items) → ∀ v ∈ items, HasRoom (around + 1) v := by
  simp only [HasRoom, holdsComponent_iff type]
  constructor
  · refine fun h => ⟨h 0 (.inl rfl), fun items hitems v hv inner hinner => ?_⟩
    have hlt := h (inner + 1) (.inr ⟨items, v, inner, hitems, hv, hinner, rfl⟩)
    omega
  · rintro ⟨hself, h⟩ _ (rfl | ⟨items, v, inner, hitems, hv, hinner, rfl⟩)
    · exact hself
    · have hlt := h items hitems v hv inner hinner
      omega

/-- A component is not looked into when it is inside too many containers. -/
lemma component_of_full {kind : ComponentKind} {place : Location τ}
    (type : ms.get? "type" = some (.str (Vocabulary.text kind)))
    (hfull : containerLimit ≤ around) :
    component around place (.obj ms) = .fail (place.field (Vocabulary.text kind)) .tooNested := by
  rw [component, kind_eq_some kind type]
  exact if_pos hfull

/-- **Reading decides whether a component of the lower grade is of the strict grade**, and has room
for its components. -/
theorem component_decides (h : IsComponent false v) (around : ℕ) (place : Location τ) :
    Decides (component around place v) (IsComponent true v ∧ HasRoom around v) := by
  induction v using Value.treeInd generalizing around place with
  | other v hv => cases h <;> simp [Value.obj?] at hv
  | obj ms ih =>
      obtain ⟨kind, hkind⟩ := h.exists_kind
      by_cases hfull : containerLimit ≤ around
      · rw [component_of_full hkind hfull]
        exact .fail fun hroom => absurd hroom.2.lt (not_lt.mpr hfull)
      have hroom : around < containerLimit := not_le.mp hfull
      rw [component, kind_eq_some kind hkind]
      simp only [if_neg hfull, children_eq]
      cases kind with
      | container =>
          have type : ms.get? "type" = some (.str "container") := hkind
          obtain ⟨attributes, arrangement, children⟩ := (isComponent_container_iff type).mp h
          have hchildren {place : Location τ} :
              Decides (optional place ms "children" (componentList (around + 1)))
                (Optional ms "children"
                  (IsListOf fun w => IsComponent true w ∧ HasRoom (around + 1) w)) := by
            refine optional_decides_of fun _ v hget hv => componentList_decides ?_
            rintro items rfl w hw place
            obtain ⟨_, ⟨⟩, each⟩ := children _ hget hv
            exact ih _ items hget w hw (each w hw) (around + 1) place
          refine ((attributes_decides attributes).map.seq (arrangement_decides arrangement)).seq
            hchildren |>.congr ?_
          rw [optional_isListOf_and_iff, isComponent_container_iff type, hasRoom_container_iff type]
          tauto
      | text =>
          obtain ⟨attributes, text⟩ := (isComponent_text_iff hkind).mp h
          refine (attributes_decides attributes).map.seq (required_decides text_decides) |>.congr ?_
          rw [isComponent_text_iff hkind, hasRoom_iff_lt hkind (by decide), and_iff_left hroom]
      | input =>
          obtain ⟨attributes, entry⟩ := (isComponent_input_iff hkind).mp h
          refine (attributes_decides attributes).map.seq entry_decides |>.congr ?_
          rw [isComponent_input_iff hkind, hasRoom_iff_lt hkind (by decide), and_iff_left hroom]
      | button =>
          obtain ⟨attributes, text, action⟩ := (isComponent_button_iff hkind).mp h
          refine ((attributes_decides attributes).map.seq (required_decides text_decides)).seq
            (optional_decides action_decides) |>.congr ?_
          rw [isComponent_button_iff hkind, hasRoom_iff_lt hkind (by decide), and_iff_left hroom,
            and_assoc]

/-- No component in a document is inside too many containers. -/
def DocumentHasRoom (v : Value τ) : Prop :=
  ∀ around, DocumentHoldsComponent around v → around < containerLimit

lemma documentHasRoom_iff : DocumentHasRoom (.obj ms) ↔
    (∀ v, ms.get? "root" = some v → HasRoom 0 v) ∧
      ∀ items, ms.get? "components" = some (.arr items) → ∀ v ∈ items, HasRoom 0 v := by
  simp only [DocumentHasRoom, HasRoom, Nat.zero_add]
  constructor
  · intro h
    exact ⟨fun v hv around hholds => h around (.root hv hholds),
      fun items hitems v hv around hholds => h around (.listed hitems hv hholds)⟩
  · rintro ⟨hroot, hlisted⟩ around (⟨hv, hholds⟩ | ⟨hitems, hv, hholds⟩)
    · exact hroot _ hv around hholds
    · exact hlisted _ hitems _ hv around hholds

/-- **Reading decides whether a document of the lower grade is of the strict grade**, and has room
for its components. -/
theorem document_decides (h : IsDocument false v) :
    Decides (document v) (IsDocument true v ∧ DocumentHasRoom v) := by
  obtain ⟨ms, rfl, h⟩ := h
  have hroot : Decides (required [] ms "root" (component 0))
      (Required ms "root" fun v => IsComponent true v ∧ HasRoom 0 v) := by
    obtain ⟨v, hget, hv⟩ := h.root
    rw [required, hget]
    refine (component_decides hv 0 _).congr ?_
    simp [Required, hget]
  have hcomponents : Decides (optional [] ms "components" (componentList 0))
      (Optional ms "components" (IsListOf fun v => IsComponent true v ∧ HasRoom 0 v)) := by
    refine optional_decides_of fun _ v hget hv => componentList_decides ?_
    rintro items rfl w hw place
    obtain ⟨_, ⟨⟩, each⟩ := h.components _ hget hv
    exact component_decides (each w hw) 0 place
  refine ((((optional_decides text_decides).map.seq (optional_decides text_decides)).seq
    (optional_decides config_decides)).seq hroot).seq hcomponents |>.congr ?_
  rw [documentHasRoom_iff, required_and_iff, optional_isListOf_and_iff]
  constructor
  · rintro ⟨⟨⟨⟨name, version⟩, config⟩, root, hroot⟩, components, hlisted⟩
    exact ⟨⟨ms, rfl, root, components, config, name, version⟩, hroot, hlisted⟩
  · rintro ⟨⟨_, ⟨⟩, h⟩, hroot, hlisted⟩
    exact ⟨⟨⟨⟨h.name, h.version⟩, h.config⟩, h.root, hroot⟩, h.components, hlisted⟩

end Reading

end LivePage
