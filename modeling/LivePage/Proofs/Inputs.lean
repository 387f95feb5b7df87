/-
The inputs of a document, and the states that a store holds for them when the
document comes into view.

* `Members.ext_of_keys`: objects with the same names in the same order are the
  same once each name has the same value in both;
* `Members.get?_putAll`, `Members.keys_putAll_congr`: setting names one after the
  other;
* `Document.inputs`: the inputs below the root, in reading order;
* `Store.ofDocument_eq_putAll`: the first store sets the state of one input after
  the other.
-/
import LivePage.Proofs.ReadBack
import LivePage.Store

namespace LivePage

/-! ### Setting names -/

namespace Members

variable {α β : Type} {ms others : Members α} {key : String}

lemma get?_eq_none_iff : ms.get? key = none ↔ key ∉ ms.keys := by
  induction ms with
  | nil => simp [get?_nil, keys]
  | cons m rest ih =>
      obtain ⟨k, a⟩ := m
      rw [get?_cons]
      by_cases hk : key = k
      · simp [hk, keys]
      · rw [if_neg hk, ih]
        simp [hk, keys]

lemma mem_keys_iff : key ∈ ms.keys ↔ ∃ a, ms.get? key = some a := by
  rw [← Option.ne_none_iff_exists', ne_eq, get?_eq_none_iff, not_not]

/-- Names and their values make up an object in which no name is repeated. -/
lemma ext_of_keys (hkeys : ms.keys = others.keys) (hnodup : ms.keys.Nodup)
    (hget : ∀ key, ms.get? key = others.get? key) : ms = others := by
  induction ms generalizing others with
  | nil =>
      have hnil : others = [] := List.map_eq_nil_iff.mp hkeys.symm
      exact hnil.symm
  | cons m rest ih =>
      obtain ⟨k, a⟩ := m
      rcases others with _ | ⟨⟨j, b⟩, others⟩
      · simp [keys] at hkeys
      · obtain ⟨rfl, hrest⟩ : k = j ∧ keys rest = keys others := by simpa [keys] using hkeys
        obtain ⟨hk, hnodup⟩ : k ∉ keys rest ∧ (keys rest).Nodup := List.nodup_cons.mp hnodup
        have hab : a = b := by simpa [get?_cons] using hget k
        subst hab
        refine congrArg _ (ih hrest hnodup fun key => ?_)
        by_cases hkey : key = k
        · rw [hkey, get?_eq_none_iff.mpr hk, get?_eq_none_iff.mpr (hrest ▸ hk)]
        · simpa [get?_cons, hkey] using hget key

lemma putAll_cons (ms : Members α) (m : String × α) (others : Members α) :
    ms.putAll (m :: others) = (ms.put m.1 m.2).putAll others :=
  List.foldl_cons

lemma mem_keys_put {other : String} {a : α} :
    other ∈ (ms.put key a).keys ↔ other = key ∨ other ∈ ms.keys := by
  rw [keys_put]
  split <;> rename_i hkey
  · exact ⟨.inr, fun h => h.elim (fun heq => heq ▸ hkey) id⟩
  · simp [or_comm]

lemma nodup_keys_put {a : α} (hnodup : ms.keys.Nodup) : (ms.put key a).keys.Nodup := by
  rw [keys_put]
  split <;> rename_i hkey
  · exact hnodup
  · rw [← List.concat_eq_append]
    exact hnodup.concat hkey

lemma mem_keys_putAll : key ∈ (ms.putAll others).keys ↔ key ∈ ms.keys ∨ key ∈ others.keys := by
  induction others generalizing ms with
  | nil => simp [putAll, keys]
  | cons m rest ih =>
      have hcons : key ∈ keys (m :: rest) ↔ key = m.1 ∨ key ∈ keys rest := List.mem_cons
      rw [putAll_cons, ih, mem_keys_put, hcons]
      tauto

lemma nodup_keys_putAll (hnodup : ms.keys.Nodup) : (ms.putAll others).keys.Nodup := by
  induction others generalizing ms with
  | nil => exact hnodup
  | cons m rest ih => exact ih (nodup_keys_put hnodup)

/-- The names of an object do not depend on the values that are set. -/
lemma keys_putAll_congr {more : Members α} (hkeys : ms.keys = others.keys)
    {later : Members α} (hmore : more.keys = later.keys) :
    (ms.putAll more).keys = (others.putAll later).keys := by
  induction more generalizing ms others later with
  | nil =>
      have hnil : later = [] := List.map_eq_nil_iff.mp hmore.symm
      rw [hnil]
      exact hkeys
  | cons m rest ih =>
      rcases later with _ | ⟨n, later⟩
      · simp [keys] at hmore
      · obtain ⟨hkey, hrest⟩ : m.1 = n.1 ∧ keys rest = keys later := by simpa [keys] using hmore
        rw [putAll_cons, putAll_cons]
        refine ih ?_ hrest
        rw [keys_put, keys_put, hkeys, hkey]

/-- Of the values that are set for a name, the last one counts. -/
lemma get?_putAll (ms others : Members α) (key : String) :
    (ms.putAll others).get? key = (get? others.reverse key).or (ms.get? key) := by
  induction others generalizing ms with
  | nil => simp [putAll, get?_nil]
  | cons m rest ih =>
      obtain ⟨k, a⟩ := m
      rw [putAll_cons, ih, List.reverse_cons, get?_append, Option.or_assoc, get?_cons]
      by_cases hkey : key = k
      · simp [hkey]
      · simp [get?_put_of_ne _ _ hkey, get?_nil, hkey]

/-- What every value has that is there or is set, all values have behind it. -/
lemma forall_put {P : α → Prop} {a : α} (hms : ∀ m ∈ ms, P m.2) (ha : P a) :
    ∀ m ∈ ms.put key a, P m.2 := by
  induction ms with
  | nil => simpa [put] using ha
  | cons m rest ih =>
      obtain ⟨k, b⟩ := m
      rw [List.forall_mem_cons] at hms
      rw [put]
      split
      · exact List.forall_mem_cons.mpr ⟨ha, hms.2⟩
      · exact List.forall_mem_cons.mpr ⟨hms.1, ih hms.2⟩

lemma forall_putAll {P : α → Prop} (hms : ∀ m ∈ ms, P m.2) (hothers : ∀ m ∈ others, P m.2) :
    ∀ m ∈ ms.putAll others, P m.2 := by
  induction others generalizing ms with
  | nil => exact hms
  | cons m rest ih =>
      rw [List.forall_mem_cons] at hothers
      exact ih (forall_put hms hothers.1) hothers.2

/-- If no name is repeated, each value is found under its name. -/
lemma get?_of_mem {a : α} (hnodup : ms.keys.Nodup) (hmem : (key, a) ∈ ms) :
    ms.get? key = some a := by
  obtain ⟨b, hb⟩ := mem_keys_iff.mp (List.mem_map_of_mem hmem)
  have hsame := List.inj_on_of_nodup_map hnodup (mem_of_get? hb) hmem rfl
  rw [hb, (Prod.mk.inj hsame).2]

lemma get?_map (f : String → α → β) (ms : Members α) (key : String) :
    get? (ms.map fun m => (m.1, f m.1 m.2)) key = (ms.get? key).map (f key) := by
  induction ms with
  | nil => simp [get?_nil]
  | cons m rest ih =>
      obtain ⟨k, a⟩ := m
      rw [List.map_cons, get?_cons, get?_cons, ih]
      by_cases hkey : key = k
      · simp [hkey]
      · simp [hkey]

end Members

/-! ### Inputs -/

/-- The id and the texts of an input. -/
def Component.input? : Component → Option (String × Entry)
  | .input attributes entry => some (attributes.id, entry)
  | _ => none

/-- The inputs below the root with their ids, in reading order. -/
def Document.inputs (d : Document) : Members Entry := d.root.nodes.filterMap Component.input?

lemma Document.mem_keys_inputs_iff {d : Document} {id : String} :
    id ∈ d.inputs.keys ↔ ∃ a e, Component.input a e ∈ d.root.nodes ∧ a.id = id := by
  simp only [Document.inputs, Members.keys, List.mem_map, List.mem_filterMap]
  constructor
  · rintro ⟨_, ⟨c, hc, hinput⟩, rfl⟩
    cases c <;> cases hinput
    exact ⟨_, _, hc, rfl⟩
  · rintro ⟨a, e, hinput, rfl⟩
    exact ⟨_, ⟨_, hinput, rfl⟩, rfl⟩

/-! ### The first store -/

namespace Store

/-- The first store sets the state of one input after the other. -/
lemma ofDocument_eq_putAll (d : Document) :
    ofDocument d = Members.putAll [] (d.inputs.mapValues seed) := by
  suffices h : ∀ (nodes : List Component) (store : Store),
      nodes.foldl plant store =
        Members.putAll store (Members.mapValues seed (nodes.filterMap Component.input?)) from
    h d.root.nodes []
  intro nodes
  induction nodes with
  | nil => exact fun store => rfl
  | cons c rest ih =>
      intro store
      rw [List.foldl_cons, ih]
      cases c <;> rfl

lemma nodup_keys_ofDocument (d : Document) : (ofDocument d).keys.Nodup := by
  rw [ofDocument_eq_putAll]
  exact Members.nodup_keys_putAll List.nodup_nil

lemma mem_keys_ofDocument_iff {d : Document} {id : String} :
    id ∈ (ofDocument d).keys ↔ id ∈ d.inputs.keys := by
  rw [ofDocument_eq_putAll, Members.mem_keys_putAll, Members.keys_mapValues]
  exact or_iff_right List.not_mem_nil

/-- A component starts with the state of the last input that has its id. -/
lemma read_ofDocument (d : Document) (id : String) :
    (ofDocument d).read id = (Members.get? d.inputs.reverse id).map seed := by
  rw [ofDocument_eq_putAll, read, Members.get?_putAll, Members.get?_nil, Option.or_none,
    Members.mapValues, ← List.map_reverse]
  exact Members.get?_map (fun _ => seed) d.inputs.reverse id

end Store

end LivePage
