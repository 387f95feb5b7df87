/-
What is written of a document that was accepted is the value it was read from,
restricted to the fields that are known. Nothing is filled in: a field is
written exactly if it was there, and null if it was null. The entries of a map
are written under their names as names, and so under their own names if all of
these are written as they are.

* `Known`, `restrict`: known fields, and an object restricted to them;
* `Restriction.component`, `Restriction.document`: the restriction at every
  level of a document, with a way to rename the entries of maps;
* `Follows`: renaming the maps of a document as they are written;
* `Reading.component_restricts`: components, by recursion through the children;
* `toValue_of_validate`: whole documents.
-/
import LivePage.Proofs.Rewriting
import LivePage.Value.Equality

namespace LivePage

variable {τ : Type}

/-! ### Known fields -/

/-- A known field: its name, a second name under which it may stand instead, and what is written
for a value that stands there. -/
structure Known (τ : Type) where
  key : String
  other : Option String := none
  carry : Value τ → Value τ := id

section

variable [DecidableEq τ] [Textual τ]

/-- What stands under the name of a field, or else under its second name. -/
def Known.find? (k : Known τ) (ms : Members (Value τ) τ) : Option (Value τ) :=
  (ms.get? k.key).or (k.other.bind fun other => ms.get? other)

/-- The known fields that are there, in the order in which they are known. -/
def restrict (fields : List (Known τ)) (ms : Members (Value τ) τ) : Members (Value τ) τ :=
  fields.filterMap fun k => (k.find? ms).map fun v => (Textual.lit k.key, k.carry v)

namespace Restriction

/-- An object restricted to known fields. -/
def record (fields : List (Known τ)) : Value τ → Value τ
  | .obj ms => .obj (restrict fields ms)
  | v => v

/-- An integer becomes the nearest double. -/
def gap : Value τ → Value τ
  | .int n => .num (.ofInt n)
  | v => v

/-- A path that is missing or null is empty. -/
def path : Option (Value τ) → Value τ
  | none | some .null => .str ""
  | some v => v

/-- A binding becomes a component and a path, and a plain value stays. -/
def payloadEntry : Value τ → Value τ
  | .obj ms =>
    .obj (restrict [{ key := "component" }] ms ++
      [(Textual.lit "path", path (Members.get? ms "path"))])
  | v => v

variable (rename : Members (Value τ) τ → Members (Value τ) τ)

/-- The entries of a map, of which `carry` says what is written, renamed. -/
def entries (carry : Value τ → Value τ) : Value τ → Value τ
  | .obj ms => .obj ((rename ms).mapValues carry)
  | v => v

def action : Value τ → Value τ := record
  [{ key := "type" }, { key := "endpoint" }, { key := "method" },
    { key := "headers", carry := entries rename id },
    { key := "payload", carry := entries rename payloadEntry },
    { key := "successMessage", other := "success_message" },
    { key := "errorMessage", other := "error_message" }]

def config : Value τ → Value τ := record
  [{ key := "authToken", other := "auth_token" },
    { key := "endpoints", carry := entries rename id },
    { key := "headers", carry := entries rename id }]

/-- The fields that all components have. -/
def attributes : List (Known τ) :=
  [{ key := "id" }, { key := "style", carry := entries rename id },
    { key := "className", other := "class_name" }, { key := "type" }]

/-- The fields of a component of each kind, its children apart. -/
def fields : ComponentKind → List (Known τ)
  | .container =>
    attributes rename ++
      [{ key := "direction" }, { key := "gap", carry := gap }, { key := "align" }]
  | .text => attributes rename ++ [{ key := "text" }]
  | .input =>
    attributes rename ++ [{ key := "placeholder" }, { key := "value" }, { key := "name" }]
  | .button =>
    attributes rename ++ [{ key := "text" }, { key := "action", carry := action rename }]

mutual

/-- A component restricted to the fields of its kind. -/
def component : Value τ → Value τ
  | .obj ms =>
    match (Members.get? ms "type").bind fun v => v.str?.bind (Vocabulary.ofText? ComponentKind) with
    | some .container => .obj (restrict (fields rename .container) ms ++ children ms)
    | some kind => .obj (restrict (fields rename kind) ms)
    | none => .obj ms
  | v => v
  termination_by structural v => v

/-- The first member named `children`, with every child restricted. -/
def children : List (τ × Value τ) → List (τ × Value τ)
  | [] => []
  | (key, v) :: rest =>
    if key == "children" then
      match v with
      | .arr items => [(Textual.lit "children", .arr (components items))]
      | v => [(Textual.lit "children", v)]
    else children rest
  termination_by structural ms => ms

/-- As many components, in the same order. -/
def components : List (Value τ) → List (Value τ)
  | [] => []
  | v :: rest => component v :: components rest
  termination_by structural items => items

end

def componentList : Value τ → Value τ
  | .arr items => .arr (components rename items)
  | v => v

/-- A document restricted to the fields that are known at every level. -/
def document : Value τ → Value τ := record
  [{ key := "name" }, { key := "version" }, { key := "config", carry := config rename },
    { key := "root", carry := component rename },
    { key := "components", carry := componentList rename }]

end Restriction

/-! ### Restricting objects -/

variable {fields others : List (Known τ)} {ms : Members (Value τ) τ} {k : Known τ}

lemma restrict_append : restrict (fields ++ others) ms = restrict fields ms ++ restrict others ms :=
  List.filterMap_append

/-- One field depends only on what stands under its names. -/
lemma restrict_singleton :
    restrict [k] ms = ((k.find? ms).map fun v => (Textual.lit k.key, k.carry v)).toList := by
  cases h : k.find? ms <;> simp [restrict, h]

end

lemma Members.mapValues_cons {α β : Type} (f : α → β) (key : τ) (a : α) (rest : Members α τ) :
    mapValues f ((key, a) :: rest) = (key, f a) :: mapValues f rest :=
  rfl

lemma Members.mapValues_id {α : Type} (ms : Members α τ) : mapValues id ms = ms := by
  simp [mapValues]

/-! ### Renaming as it is written -/

variable [DecidableEq τ] [Textual τ]

/-- Maps whose names are among some names are renamed as they are written. -/
def Follows (rename : Members (Value τ) τ → Members (Value τ) τ) (names : List τ) : Prop :=
  ∀ ms : Members (Value τ) τ, (∀ key ∈ ms.keys, key ∈ names) → rename ms = ms.asWritten

section

variable {rename : Members (Value τ) τ → Members (Value τ) τ} {names more : List τ}

lemma follows_asWritten : Follows Members.asWritten names := fun _ _ => rfl

/-- Maps stay as they are if all names are written as they are. -/
lemma follows_id (h : ∀ name ∈ names, Textual.asName name = name) : Follows id names :=
  fun ms hkeys => ((ms.asWritten_eq_self_iff).mpr fun key hkey => h key (hkeys key hkey)).symm

lemma Follows.left (h : Follows rename (names ++ more)) : Follows rename names :=
  fun ms hkeys => h ms fun key hkey => List.mem_append_left more (hkeys key hkey)

lemma Follows.right (h : Follows rename (names ++ more)) : Follows rename more :=
  fun ms hkeys => h ms fun key hkey => List.mem_append_right names (hkeys key hkey)

lemma Follows.given {α : Type} {namesOf : α → List τ} {field : Field α} {a : α}
    (h : Follows rename (field.gather namesOf)) (hfield : field = .given a) :
    Follows rename (namesOf a) := by
  subst hfield
  exact h

end

namespace Reading

variable {α : Type} {place : Location τ} {ms : Members (Value τ) τ} {key other : String}
  {v : Value τ} {read : Location τ → Value τ → Checked τ α} {write : α → Value τ} {around : ℕ}
  {rename : Members (Value τ) τ → Members (Value τ) τ}

/-! ### Fields -/

/-- A field is written as what is read for it is. -/
lemma required_restricts {a : α} (carry : Value τ → Value τ)
    (h : required place ms key read = .ok a)
    (hcarry : ∀ place v, ms.get? key = some v → read place v = .ok a → write a = carry v) :
    [(Textual.lit key, write a)] = restrict [{ key, carry }] ms := by
  rcases hget : ms.get? key with _ | v
  · simp [required, hget, Checked.fail] at h
  · rw [required, hget] at h
    simp [restrict, Known.find?, hget, hcarry _ v hget h]

/-- An optional field is written exactly if it is there, and as null if it is null. -/
lemma optional_restricts {f : Field α} (carry : Value τ → Value τ)
    (h : optional place ms key read = .ok f)
    (hnull : carry .null = .null)
    (hcarry : ∀ place v a, f = .given a → ms.get? key = some v → read place v = .ok a →
      write a = carry v) :
    f.toMembers key write = restrict [{ key, carry }] ms := by
  rcases hget : ms.get? key with _ | v
  · rw [optional, hget] at h
    cases h
    simp [Field.toMembers, restrict, Known.find?, hget]
  · by_cases hv : v = .null
    · subst hv
      rw [optional, hget] at h
      cases h
      simp [Field.toMembers, restrict, Known.find?, hget, hnull]
    · rw [optional_eq_map hget hv] at h
      rcases hread : read (place.field key) v with a | found <;> rw [hread] at h <;> cases h
      simp [Field.toMembers, restrict, Known.find?, hget, hcarry _ v a rfl hget hread]

omit [DecidableEq τ] [Textual τ] in
lemma text_restricts {place : Location τ} {v : Value τ} {s : τ} (h : text place v = .ok s) :
    .str s = v := by
  cases v <;> cases h
  rfl

/-- The second name counts when the first is missing, and the field is written under the first. -/
lemma optionalText_restricts {f : Field τ}
    (h : optionalEither place ms key other text = .ok f) :
    f.toMembers key .str = restrict [{ key, other }] ms := by
  rw [optionalEither, Members.has] at h
  rcases hget : ms.get? key with _ | v <;> rw [hget] at h
  · have hother : f.toMembers other .str = restrict [{ key := other }] ms :=
      optional_restricts id h rfl fun _ _ _ _ _ => text_restricts
    cases f <;> cases hfind : ms.get? other <;>
      simp_all [Field.toMembers, restrict, Known.find?]
  · have hkey : f.toMembers key .str = restrict [{ key }] ms :=
      optional_restricts id h rfl fun _ _ _ _ _ => text_restricts
    simpa [restrict, Known.find?, hget] using hkey

lemma word_restricts {α : Type} [Vocabulary α] {place : Location τ} {v : Value τ} {a : α}
    (h : word α place v = .ok a) : wordValue a = v := by
  cases v with
  | str s =>
      rw [word, Value.str?, Option.bind_some] at h
      split at h
      · cases h
        rw [wordValue, Vocabulary.text_eq_of_ofText? (by assumption)]
      · simp [Checked.fail] at h
  | _ => simp [word, Value.str?, Checked.fail] at h

omit [DecidableEq τ] [Textual τ] in
lemma double_restricts {place : Location τ} {v : Value τ} {x : Double}
    (h : double place v = .ok x) : .num x = Restriction.gap v := by
  cases v with
  | num y => cases h; rfl
  | int n =>
      simp only [double] at h
      split at h <;> cases h
      rfl
  | _ => simp [double, Checked.fail] at h

/-! ### Maps -/

/-- Entries that are written as values of the same names are renamed as these are. -/
lemma mapValue_restricts {xs : Members α τ} {carry : Value τ → Value τ}
    (hfollows : Follows rename xs.keys) (h : xs.mapValues write = ms.mapValues carry) :
    mapValue write xs = Restriction.entries rename carry (.obj ms) := by
  have hkeys : ms.keys = xs.keys := by
    rw [← Members.keys_mapValues carry, ← h, Members.keys_mapValues]
  rw [Restriction.entries, hfollows ms fun key hkey => hkeys ▸ hkey, mapValue, Members.asWritten,
    ← Members.renamed_mapValues, ← Members.renamed_mapValues, h]

omit [DecidableEq τ] [Textual τ] in
/-- A map is read from an object with its names, its order and its values. -/
lemma eq_of_map {place : Location τ} {v : Value τ} {xs : Members α τ}
    (hcarry : ∀ place v a, read place v = .ok a → write a = v) (h : map read place v = .ok xs) :
    v = .obj (xs.mapValues write) := by
  cases v with
  | obj ms =>
      rw [map] at h
      congr 1
      induction ms generalizing xs with
      | nil => cases h; rfl
      | cons m rest ih =>
          simp only [entries, Checked.seq_eq_ok_iff, Checked.map_eq_ok_iff] at h
          obtain ⟨_, others, ⟨a, ha, rfl⟩, hothers, rfl⟩ := h
          rw [Members.mapValues_cons, ← ih hothers, hcarry _ _ _ ha]
  | _ => simp [map, Checked.fail] at h

lemma map_restricts {place : Location τ} {v : Value τ} {xs : Members α τ}
    (hfollows : Follows rename xs.keys)
    (hcarry : ∀ place v a, read place v = .ok a → write a = v) (h : map read place v = .ok xs) :
    mapValue write xs = Restriction.entries rename id v := by
  rw [eq_of_map hcarry h]
  exact mapValue_restricts hfollows (Members.mapValues_id _).symm

lemma textMap_restricts {place : Location τ} {v : Value τ} {texts : Members τ τ}
    (hfollows : Follows rename texts.keys) (h : textMap place v = .ok texts) :
    textMapValue texts = Restriction.entries rename id v :=
  map_restricts hfollows (fun _ _ _ => text_restricts) h

omit [DecidableEq τ] in
lemma styleValue_restricts {place : Location τ} {v : Value τ} {x : StyleValue τ}
    (h : styleValue place v = .ok x) : x.toValue = v := by
  cases v <;> cases h <;> rfl

omit [DecidableEq τ] in
lemma path_restricts {place : Location τ} {v : Value τ} {s : τ} (h : path place v = .ok s) :
    .str s = Restriction.path (some v) := by
  cases v <;> cases h <;> rfl

/-- A binding is written with its path, and a literal as it is. -/
lemma payloadEntry_restricts {e : PayloadEntry (Scalar τ) τ} (h : payloadEntry place v = .ok e) :
    e.toValue = Restriction.payloadEntry v := by
  cases v with
  | obj ms =>
      rcases hb : binding place (.obj ms) with b | found
      · simp only [payloadEntry, hb, Checked.map] at h
        cases h
        obtain ⟨hcomponent, hpath⟩ := binding_eq_ok_iff.mp hb
        have hnamed : [(Textual.lit "component", .str b.component)] =
            restrict [{ key := "component" }] ms :=
          required_restricts id hcomponent fun _ _ _ => text_restricts
        have hpathed : .str b.path = Restriction.path (Members.get? ms "path") := by
          rw [bindingPath] at hpath
          rcases hget : Members.get? ms "path" with _ | v <;> rw [hget] at hpath
          · rw [← Checked.ok.inj hpath, Restriction.path]
          · exact path_restricts hpath
        rw [PayloadEntry.toValue, Binding.toValue, Restriction.payloadEntry, ← hnamed, ← hpathed,
          List.singleton_append]
      · simp [payloadEntry, hb, Checked.map] at h
  | _ => cases h <;> rfl

lemma payload_restricts {place : Location τ} {v : Value τ} {p : Payload (Scalar τ) τ}
    (hfollows : Follows rename p.keys) (h : payload place v = .ok p) :
    p.toValue = Restriction.entries rename Restriction.payloadEntry v := by
  cases v with
  | obj ms =>
      refine mapValue_restricts hfollows ?_
      rw [payload] at h
      clear hfollows
      induction ms generalizing p with
      | nil => cases h; rfl
      | cons m rest ih =>
          obtain ⟨key, v⟩ := m
          rw [payloadEntries] at h
          rcases hentry : payloadEntry place v with e | found
          · rcases hrest : payloadEntries place rest with others | found
            · simp only [hentry, hrest, Checked.map, Checked.ok.injEq] at h
              subst h
              rw [Members.mapValues_cons, Members.mapValues_cons, ih hrest,
                payloadEntry_restricts hentry]
            · simp [hentry, hrest, Checked.map] at h
          · simp [hentry] at h
  | _ => simp [payload, Checked.fail] at h

/-! ### Records -/

lemma action_restricts {place : Location τ} {v : Value τ} {a : Action τ}
    (hfollows : Follows rename a.names) (h : action place v = .ok a) :
    a.toValue = Restriction.action rename v := by
  cases v with
  | obj ms =>
      obtain ⟨htype, hendpoint, hmethod, hheaders, hpayload, hsuccess, herror⟩ :=
        action_eq_ok_iff.mp h
      rw [Action.toValue, Restriction.action, Restriction.record,
        optional_restricts id hendpoint rfl fun _ _ _ _ _ => text_restricts,
        optional_restricts id hmethod rfl fun _ _ _ _ _ => word_restricts,
        optional_restricts (Restriction.entries rename id) hheaders rfl
          fun _ _ _ hgiven _ => textMap_restricts (hfollows.left.given hgiven),
        optional_restricts (Restriction.entries rename Restriction.payloadEntry) hpayload rfl
          fun _ _ _ hgiven _ => payload_restricts (hfollows.right.given hgiven),
        optionalText_restricts hsuccess, optionalText_restricts herror,
        List.singleton_append.symm,
        required_restricts id htype fun _ _ _ => word_restricts]
      simp only [← restrict_append]
      rfl
  | _ => simp [action, Checked.fail] at h

lemma config_restricts {place : Location τ} {v : Value τ} {c : Config τ}
    (hfollows : Follows rename c.names) (h : config place v = .ok c) :
    c.toValue = Restriction.config rename v := by
  cases v with
  | obj ms =>
      obtain ⟨htoken, hendpoints, hheaders⟩ := config_eq_ok_iff.mp h
      rw [Config.toValue, Restriction.config, Restriction.record,
        optionalText_restricts htoken,
        optional_restricts (Restriction.entries rename id) hendpoints rfl
          fun _ _ _ hgiven _ => textMap_restricts (hfollows.left.given hgiven),
        optional_restricts (Restriction.entries rename id) hheaders rfl
          fun _ _ _ hgiven _ => textMap_restricts (hfollows.right.given hgiven)]
      simp only [← restrict_append]
      rfl
  | _ => simp [config, Checked.fail] at h

lemma attributes_restricts {a : Attributes τ} {kind : ComponentKind}
    (hfollows : Follows rename a.names) (h : attributes place ms = .ok a)
    (type : ms.get? "type" = some (.str (Vocabulary.text kind))) :
    a.toMembers kind = restrict (Restriction.attributes rename) ms := by
  obtain ⟨hid, hstyle, hclassName⟩ := attributes_eq_ok_iff.mp h
  have htype : [(Textual.lit "type", wordValue kind)] = restrict [{ key := "type" }] ms := by
    simp [restrict, Known.find?, type, wordValue]
  rw [Attributes.toMembers, htype, optionalText_restricts hclassName,
    optional_restricts (Restriction.entries rename id) hstyle rfl fun _ _ _ hgiven _ =>
      map_restricts (hfollows.given hgiven) fun _ _ _ => styleValue_restricts,
    ← List.singleton_append, required_restricts id hid fun _ _ _ => text_restricts]
  simp only [← restrict_append]
  rfl

lemma arrangement_restricts {r : Arrangement} (h : arrangement place ms = .ok r) :
    r.toMembers = restrict
      [{ key := "direction" }, { key := "gap", carry := Restriction.gap }, { key := "align" }]
      ms := by
  obtain ⟨hdirection, hgap, halign⟩ := arrangement_eq_ok_iff.mp h
  rw [Arrangement.toMembers,
    optional_restricts id hdirection rfl fun _ _ _ _ _ => word_restricts,
    optional_restricts Restriction.gap hgap rfl fun _ _ _ _ _ => double_restricts,
    optional_restricts id halign rfl fun _ _ _ _ _ => word_restricts]
  simp only [← restrict_append]
  rfl

lemma entry_restricts {e : Entry τ} (h : entry place ms = .ok e) :
    e.toMembers =
      restrict [{ key := "placeholder" }, { key := "value" }, { key := "name" }] ms := by
  obtain ⟨hplaceholder, hvalue, hname⟩ := entry_eq_ok_iff.mp h
  rw [Entry.toMembers,
    optional_restricts id hplaceholder rfl fun _ _ _ _ _ => text_restricts,
    optional_restricts id hvalue rfl fun _ _ _ _ _ => text_restricts,
    optional_restricts id hname rfl fun _ _ _ _ _ => text_restricts]
  simp only [← restrict_append]
  rfl

/-! ### Components -/

/-- The children are restricted like the value of any other field. -/
lemma children_restrict :
    Restriction.children rename ms =
      restrict [{ key := "children", carry := Restriction.componentList rename }] ms := by
  induction ms with
  | nil => rfl
  | cons m rest ih =>
      obtain ⟨key, v⟩ := m
      by_cases hkey : key = Textual.lit "children"
      · subst hkey
        cases v <;>
          simp [Restriction.children, restrict, Known.find?, Members.get?_cons,
            Restriction.componentList]
      · have hrest : Restriction.children rename ((key, v) :: rest) =
            Restriction.children rename rest := by
          cases v <;> simp [Restriction.children, hkey]
        rw [hrest, ih, restrict_singleton, restrict_singleton]
        simp [Known.find?, Members.get?_cons, Ne.symm hkey]

/-- The children keep their number and their order. -/
lemma components_restrict {n : ℕ} {items : List (Value τ)} {cs : List (Component τ)}
    (hfollows : Follows rename (Component.namesOfAll cs))
    (h : components around place n items = .ok cs)
    (hcarry : ∀ v ∈ items, ∀ place c, Follows rename c.names →
      component around place v = .ok c → c.toValue = Restriction.component rename v) :
    cs.map Component.toValue = Restriction.components rename items := by
  induction items generalizing cs n with
  | nil => cases h; rfl
  | cons v rest ih =>
      simp only [components, Checked.seq_eq_ok_iff, Checked.map_eq_ok_iff] at h
      obtain ⟨_, others, ⟨c, hc, rfl⟩, hothers, rfl⟩ := h
      rw [List.forall_mem_cons] at hcarry
      rw [List.map_cons, Restriction.components, ih hfollows.right hothers hcarry.2,
        hcarry.1 _ c hfollows.left hc]

lemma componentList_restricts {place : Location τ} {v : Value τ} {cs : List (Component τ)}
    (hfollows : Follows rename (Component.namesOfAll cs))
    (h : componentList around place v = .ok cs)
    (hcarry : ∀ items, v = .arr items → ∀ w ∈ items, ∀ place c, Follows rename c.names →
      component around place w = .ok c → c.toValue = Restriction.component rename w) :
    .arr (cs.map Component.toValue) = Restriction.componentList rename v := by
  cases v with
  | arr items =>
      rw [Restriction.componentList, components_restrict hfollows h (hcarry items rfl)]
  | _ => simp [componentList, Checked.fail] at h

/-- **A component is written as the value that it was read from, restricted.** -/
theorem component_restricts {c : Component τ} (hfollows : Follows rename c.names)
    (h : component around place v = .ok c) : c.toValue = Restriction.component rename v := by
  induction v using Value.treeInd generalizing around place c with
  | other v hv => cases v <;> simp_all [component, Value.obj?, Checked.fail]
  | obj ms ih =>
      obtain ⟨kind, type⟩ := exists_kind h
      rw [Restriction.component, kind_eq_some kind type]
      cases kind with
      | container =>
          obtain ⟨-, a, r, children, ha, hr, hchildren, rfl⟩ :=
            (component_container_eq_ok_iff type).mp h
          rw [Component.names_container] at hfollows
          rw [Component.toValue_container, attributes_restricts hfollows.left ha type,
            arrangement_restricts hr,
            optional_restricts (Restriction.componentList rename) hchildren rfl, ← restrict_append,
            children_restrict]
          · rfl
          · intro _ v cs hgiven hget hlist
            exact componentList_restricts (hfollows.right.given hgiven) hlist
              fun items hitems w hw place c => ih "children" items (hitems ▸ hget) w hw
      | text =>
          obtain ⟨-, a, content, ha, hcontent, rfl⟩ := (component_text_eq_ok_iff type).mp h
          rw [Component.names] at hfollows
          rw [Component.toValue, attributes_restricts hfollows ha type,
            required_restricts id hcontent fun _ _ _ => text_restricts, ← restrict_append]
          rfl
      | input =>
          obtain ⟨-, a, e, ha, he, rfl⟩ := (component_input_eq_ok_iff type).mp h
          rw [Component.names] at hfollows
          rw [Component.toValue, attributes_restricts hfollows ha type, entry_restricts he,
            ← restrict_append]
          rfl
      | button =>
          obtain ⟨-, a, content, act, ha, hcontent, hact, rfl⟩ :=
            (component_button_eq_ok_iff type).mp h
          rw [Component.names] at hfollows
          rw [Component.toValue, attributes_restricts hfollows.left ha type,
            ← List.singleton_append,
            required_restricts id hcontent fun _ _ _ => text_restricts,
            optional_restricts (Restriction.action rename) hact rfl
              fun _ _ _ hgiven _ => action_restricts (hfollows.right.given hgiven),
            ← restrict_append, ← restrict_append]
          rfl

/-- **A document is written as the value that it was read from, restricted.** -/
theorem document_restricts {d : Document τ} (hfollows : Follows rename d.names)
    (h : document v = .ok d) : d.toValue = Restriction.document rename v := by
  cases v with
  | obj ms =>
      obtain ⟨hname, hversion, hconfig, hroot, hcomponents⟩ := document_eq_ok_iff.mp h
      rw [Document.toValue, Restriction.document, Restriction.record,
        ← List.singleton_append,
        optional_restricts id hname rfl fun _ _ _ _ _ => text_restricts,
        optional_restricts id hversion rfl fun _ _ _ _ _ => text_restricts,
        optional_restricts (Restriction.config rename) hconfig rfl
          fun _ _ _ hgiven _ => config_restricts (hfollows.left.left.given hgiven),
        required_restricts (Restriction.component rename) hroot
          fun _ _ _ => component_restricts hfollows.left.right,
        optional_restricts (Restriction.componentList rename) hcomponents rfl]
      · simp only [← restrict_append]
        rfl
      · intro _ v cs hgiven _ hlist
        rw [Component.valuesOf_eq_map]
        exact componentList_restricts (hfollows.right.given hgiven) hlist
          fun _ _ _ _ _ _ => component_restricts
  | _ => simp [document, Checked.fail] at h

end Reading

/-! ### Accepted documents -/

/-- **A document that was accepted is written as its value, restricted to the known fields**, with
the entries of its maps under the names that are written; and these are the names that they have if
all of them are written as they are. -/
theorem toValue_of_validate {limit : ℤ} {v : Value τ} {d : Document τ}
    (h : validate limit v = .ok d) :
    d.toValue = Restriction.document Members.asWritten v ∧
      ((∀ name ∈ d.names, Textual.asName name = name) →
        d.toValue = Restriction.document id v) := by
  have hread := (validate_eq_ok_iff.mp h).2.2
  exact ⟨Reading.document_restricts follows_asWritten hread,
    fun hnames => Reading.document_restricts (follows_id hnames) hread⟩

theorem toValue_of_validate_plainForm :
    ∃ d, validate 100 plainForm = .ok d ∧ d.toValue = Restriction.document id plainForm := by
  have hok : (validate 100 plainForm).isOk := by decide +kernel
  rcases h : validate 100 plainForm with r | d
  · rw [h] at hok
    exact nomatch hok
  · exact ⟨d, rfl, (toValue_of_validate h).2 fun _ _ => rfl⟩

/-- A text with a style of two names, which are the first and the last of the surrogates. -/
def strayPair : Value RawText :=
  .obj [("root", .obj [("id", .str "r"), ("type", .str "text"), ("text", .str "x"),
    ("style", .obj [([.surrogate (Fin.rev (Fin.last 0x7FF))], .str "first"),
      (strayName, .str "last")])])]

/-- Both names are written as three replacement characters, and one entry is left. -/
theorem toValue_of_strayPair :
    ∃ d, validate 100 strayPair = .ok d ∧ d.toValue ≠ Restriction.document id strayPair ∧
      d.toValue = .obj [("root", .obj [("id", .str "r"),
        ("style", .obj [(List.replicate 3 (.char '\uFFFD'), .str "last")]), ("type", .str "text"),
        ("text", .str "x")])] := by
  have hwritten : (validate 100 strayPair).toOption.map Document.toValue =
      some (.obj [("root", .obj [("id", .str "r"),
        ("style", .obj [(List.replicate 3 (.char '\uFFFD'), .str "last")]), ("type", .str "text"),
        ("text", .str "x")])]) := by
    decide +kernel
  rcases h : validate 100 strayPair with r | d
  · rw [h] at hwritten
    cases hwritten
  · rw [h] at hwritten
    have hwritten := Option.some.inj hwritten
    refine ⟨d, rfl, ?_, hwritten⟩
    rw [hwritten]
    decide +kernel

end LivePage
