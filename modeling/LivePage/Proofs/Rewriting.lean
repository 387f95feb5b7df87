/-
Documents that were accepted are accepted again, as what they are under the
names that are written. A document is written within the grammar, and no higher
than the value it was read from.

* `Reading.isComponent_toValue`, `Reading.isDocument_toValue`: the written form
  is of the lower grade;
* `Reading.height_component_le`, `Reading.height_document_le`: it is nested no
  deeper than what was read;
* `revalidate_of_validate`: validating a document that was accepted, or what is
  written of it;
* `revalidate_strayForm`: a document that comes out as another one.
-/
import LivePage.Proofs.Acceptance
import LivePage.Proofs.ReadBack

namespace LivePage

namespace Reading

open Grammar Value

variable {τ α : Type} {place : Location τ} {ms : Members (Value τ) τ} {key : String} {v : Value τ}
  {read : Location τ → Value τ → Checked τ α} {write : α → Value τ} {around : ℕ}

/-! ### Plain values -/

lemma isGap_ofInt {n : ℤ} (hn : 0 ≤ n) : IsGap false (.num (.ofInt n) : Value τ) := by
  rw [Double.ofInt, decide_eq_false (not_lt.mpr hn)]
  exact .num _

/-- A gap stays a gap when it is read as a double. -/
lemma isGap_double {x : Double} (h : IsGap false v) (hread : double place v = .ok x) :
    IsGap false (.num x : Value τ) := by
  cases h with
  | int hn _ =>
      simp only [double] at hread
      split at hread <;> cases hread
      exact isGap_ofInt hn
  | num size =>
      cases hread
      exact .num size
  | negativeZero =>
      cases hread
      exact .negativeZero

lemma height_str (s : τ) : height (.str s) = 0 := by simp [height]

lemma height_wordValue [Textual τ] {α : Type} [Vocabulary α] (a : α) :
    height (wordValue a : Value τ) = 0 :=
  height_str _

variable [DecidableEq τ] [Textual τ]

/-! ### Where a part comes from -/

/-- A field that is read as given comes from a value that is there. -/
lemma exists_of_optional {f : Field α} {a : α} (h : optional place ms key read = .ok f)
    (hf : f = .given a) :
    ∃ v, ms.get? key = some v ∧ v ≠ .null ∧ read (place.field key) v = .ok a := by
  subst hf
  rcases hget : ms.get? key with _ | v
  · simp [optional, hget] at h
  · by_cases hv : v = .null
    · simp [optional, hget, hv] at h
    · rw [optional_eq_map hget hv] at h
      rcases hread : read (place.field key) v with b | found <;>
        simp_all [Checked.map]

/-- Every component that is read comes from an element of the list. -/
lemma exists_of_componentList {cs : List (Component τ)}
    (h : componentList around place v = .ok cs) :
    ∃ items, v = .arr items ∧
      ∀ c ∈ cs, ∃ w ∈ items, ∃ place, component around place w = .ok c := by
  cases v with
  | arr items =>
      refine ⟨items, rfl, ?_⟩
      rw [componentList] at h
      generalize 0 = n at h
      induction items generalizing cs n with
      | nil => simp_all [components]
      | cons w rest ih =>
          simp only [components, Checked.seq_eq_ok_iff, Checked.map_eq_ok_iff] at h
          obtain ⟨_, others, ⟨c, hc, rfl⟩, hothers, rfl⟩ := h
          refine List.forall_mem_cons.mpr ⟨⟨w, by simp, _, hc⟩, fun d hd => ?_⟩
          obtain ⟨u, hu, hread⟩ := ih _ hothers d hd
          exact ⟨u, List.mem_cons_of_mem w hu, hread⟩
  | _ => simp [componentList, Checked.fail] at h

/-- Only an object whose type names a kind is read as a component. -/
lemma exists_kind {c : Component τ} (h : component around place (.obj ms) = .ok c) :
    ∃ kind : ComponentKind, ms.get? "type" = some (.str (Vocabulary.text kind)) := by
  rcases hget : ms.get? "type" with _ | v
  · simp [component, hget, Checked.fail] at h
  · cases v with
    | str s =>
        rcases hkind : Vocabulary.ofText? ComponentKind s with _ | kind
        · simp [component, hget, hkind, Value.str?, Checked.fail] at h
        · exact ⟨kind, by rw [Vocabulary.ofText?_eq_some_iff.mp hkind]⟩
    | _ => simp [component, hget, Value.str?, Checked.fail] at h

/-- What is read has room for its components. -/
theorem fits_of_component {c : Component τ} (h : component around place v = .ok c) :
    c.Fits around := by
  induction v using Value.treeInd generalizing around place c with
  | other v hv => cases v <;> simp_all [component, Value.obj?, Checked.fail]
  | obj ms ih =>
      obtain ⟨kind, type⟩ := exists_kind h
      cases kind with
      | container =>
          obtain ⟨room, a, r, children, -, -, hchildren, rfl⟩ :=
            (component_container_eq_ok_iff type).mp h
          refine .container room fun cs hcs c hc => ?_
          obtain ⟨v, hget, -, hlist⟩ := exists_of_optional hchildren hcs
          obtain ⟨items, rfl, hcomponents⟩ := exists_of_componentList hlist
          obtain ⟨w, hw, place, hread⟩ := hcomponents c hc
          exact ih "children" items hget w hw hread
      | text =>
          obtain ⟨room, a, content, -, -, rfl⟩ := (component_text_eq_ok_iff type).mp h
          exact .text a content room
      | input =>
          obtain ⟨room, a, e, -, -, rfl⟩ := (component_input_eq_ok_iff type).mp h
          exact .input a e room
      | button =>
          obtain ⟨room, a, content, act, -, -, -, rfl⟩ := (component_button_eq_ok_iff type).mp h
          exact .button a content act room

theorem fits_of_document {d : Document τ} (h : document v = .ok d) : d.Fits := by
  cases v with
  | obj ms =>
      obtain ⟨-, -, -, hroot, hcomponents⟩ := document_eq_ok_iff.mp h
      constructor
      · rcases hget : Members.get? ms "root" with _ | v
        · simp [required, hget, Checked.fail] at hroot
        · rw [required, hget] at hroot
          exact fits_of_component hroot
      · intro cs hcs c hc
        obtain ⟨v, -, -, hlist⟩ := exists_of_optional hcomponents hcs
        obtain ⟨items, rfl, hlisted⟩ := exists_of_componentList hlist
        obtain ⟨w, -, place, hread⟩ := hlisted c hc
        exact fits_of_component hread
  | _ => simp [document, Checked.fail] at h

/-! ### Staying within the grammar -/

/-- A written field has a property if the value that it is written as has it. -/
lemma optional_of_written {f : Field α} {P : Value τ → Prop} (hget : ms.get? key = f.written? write)
    (h : ∀ a, f = .given a → P (write a)) : Optional ms key P := by
  intro v hv hnull
  rcases f with _ | _ | a
  all_goals simp_all [Field.written?]

lemma id_ne_empty {a : Attributes τ} (h : AttributeFields false ms)
    (hread : attributes place ms = .ok a) : a.id ≠ Textual.lit "" := by
  obtain ⟨_, hget, s, rfl, hs⟩ := h.id
  have hid := (attributes_eq_ok_iff.mp hread).1
  rw [required, hget] at hid
  cases hid
  exact hs

/-- Attributes of the lower grade are so when they are read back, their names apart. -/
lemma attributes_written {a : Attributes τ} {written : Members (Value τ) τ} {other : Location τ}
    (h : AttributeFields false ms) (hread : attributes place ms = .ok a)
    (hback : attributes other written = .ok a.renamed) : AttributeFields false written := by
  have hid := id_ne_empty h hread
  obtain ⟨hback, hstyle, hclassName⟩ := attributes_eq_ok_iff.mp hback
  obtain ⟨_, hget, s, rfl⟩ := (required_decides text_decides).of_ok hback
  refine ⟨⟨_, hget, s, rfl, ?_⟩, ?_, ?_⟩
  · rw [required, hget] at hback
    exact Checked.ok.inj hback ▸ hid
  · exact (optional_decides (map_decides styleValue_decides)).of_ok hstyle
  · exact (optionalText_decides.of_ok hclassName).lower

lemma arrangement_written {r : Arrangement} {written : Members (Value τ) τ}
    (h : ArrangementFields false ms) (hread : arrangement place ms = .ok r)
    (hget : ∀ key ∈ ["direction", "gap", "align"],
      written.get? key = (r.toMembers : Members (Value τ) τ).get? key) :
    ArrangementFields false written := by
  obtain ⟨-, hgap, -⟩ := arrangement_eq_ok_iff.mp hread
  have hback : arrangement [] written = .ok r := arrangement_of_get? hget
  obtain ⟨hdirection, -, halign⟩ := arrangement_eq_ok_iff.mp hback
  refine ⟨(optional_decides word_decides).of_ok hdirection, ?_,
    (optional_decides word_decides).of_ok halign⟩
  have hwritten : written.get? "gap" = r.gap.written? .num := by
    simp [hget, Arrangement.toMembers, Members.get?_append, Field.get?_toMembers]
  refine optional_of_written hwritten fun x hx => ?_
  obtain ⟨v, hv, hnull, hx⟩ := exists_of_optional hgap hx
  exact isGap_double (h.gap v hv hnull) hx

lemma componentList_written {f : Field (List (Component τ))} {written : Members (Value τ) τ}
    (h : Optional ms key (IsListOf (IsComponent false)))
    (hread : optional place ms key (componentList around) = .ok f)
    (hget : written.get? key = f.written? fun cs => .arr (cs.map Component.toValue))
    (ih : ∀ items, ms.get? key = some (.arr items) → ∀ v ∈ items, IsComponent false v →
      ∀ place c, component around place v = .ok c → IsComponent false c.toValue) :
    Optional written key (IsListOf (IsComponent false)) := by
  refine optional_of_written hget fun cs hcs => ?_
  obtain ⟨v, hv, hnull, hlist⟩ := exists_of_optional hread hcs
  obtain ⟨items, rfl, hcomponents⟩ := exists_of_componentList hlist
  obtain ⟨_, ⟨⟩, each⟩ := h _ hv hnull
  refine ⟨_, rfl, List.forall_mem_map.mpr fun c hc => ?_⟩
  obtain ⟨w, hw, place, hread⟩ := hcomponents c hc
  exact ih items hv w hw (each w hw) place c hread

/-- **A component of the lower grade is written as one.** -/
theorem isComponent_toValue {c : Component τ} (h : IsComponent false v)
    (hread : component around place v = .ok c) : IsComponent false c.toValue := by
  have hback := component_toValue (fits_of_component hread) []
  induction v using Value.treeInd generalizing around place c with
  | other v hv => cases h <;> simp [Value.obj?] at hv
  | obj ms ih =>
      rcases h with @⟨_, items, type, attributes, arrangement, children, each⟩ |
        ⟨type, attributes, _⟩ | ⟨type, attributes, _⟩ | ⟨type, attributes, _, _⟩
      · obtain ⟨-, a, r, f, ha, hr, hf, rfl⟩ := (component_container_eq_ok_iff type).mp hread
        rw [Component.toValue_container, List.append_assoc] at hback ⊢
        rw [Component.renamed_container] at hback
        have htype := type_toMembers a .container (r.toMembers ++
          f.toMembers "children" fun cs => .arr (cs.map Component.toValue))
        obtain ⟨-, _, _, _, ha', -, -, ⟨⟩⟩ := (component_container_eq_ok_iff htype).mp hback
        rw [isComponent_container_iff htype]
        refine ⟨attributes_written attributes ha ha',
          arrangement_written arrangement hr (get?_container_arrangement a r f _),
          componentList_written (exists_elements_iff.mp ⟨items, children, each⟩) hf
            (get?_container_children a r f _) ?_⟩
        intro items hget v hv h place c hc
        exact ih "children" items hget v hv h hc (component_toValue (fits_of_component hc) [])
      · obtain ⟨-, a, content, ha, -, rfl⟩ := (component_text_eq_ok_iff type).mp hread
        have htype := type_toMembers a .text [("text", .str content)]
        obtain ⟨-, _, _, ha', hcontent, ⟨⟩⟩ := (component_text_eq_ok_iff htype).mp hback
        exact (isComponent_text_iff htype).mpr ⟨attributes_written attributes ha ha',
          (required_decides text_decides).of_ok hcontent⟩
      · obtain ⟨-, a, e, ha, -, rfl⟩ := (component_input_eq_ok_iff type).mp hread
        have htype := type_toMembers a .input e.toMembers
        obtain ⟨-, _, _, ha', he, ⟨⟩⟩ := (component_input_eq_ok_iff htype).mp hback
        exact (isComponent_input_iff htype).mpr ⟨attributes_written attributes ha ha',
          entry_decides.of_ok he⟩
      · obtain ⟨-, a, content, act, ha, -, -, rfl⟩ := (component_button_eq_ok_iff type).mp hread
        have htype := type_toMembers a .button
          (("text", .str content) :: act.toMembers "action" Action.toValue)
        obtain ⟨-, _, _, _, ha', hcontent, hact, ⟨⟩⟩ :=
          (component_button_eq_ok_iff htype).mp hback
        refine (isComponent_button_iff htype).mpr
          ⟨attributes_written attributes ha ha',
            (required_decides text_decides).of_ok hcontent, ?_⟩
        exact ((optional_decides action_decides).of_ok hact).mono
          fun _ => IsAction.lower

/-- **A document of the lower grade is written as one.** -/
theorem isDocument_toValue {d : Document τ} (h : IsDocument false v)
    (hread : document v = .ok d) : IsDocument false d.toValue := by
  obtain ⟨ms, rfl, h⟩ := h
  obtain ⟨-, -, -, hroot, hcomponents⟩ := document_eq_ok_iff.mp hread
  have hback := document_toValue (fits_of_document hread)
  rw [Document.toValue] at hback
  obtain ⟨hname, hversion, hconfig, -, -⟩ := document_eq_ok_iff.mp hback
  refine ⟨_, rfl, ⟨⟨d.root.toValue, ?_, ?_⟩, ?_, ?_, ?_, ?_⟩⟩
  · simp [Members.get?_cons, Members.get?_append, Field.get?_toMembers]
  · obtain ⟨v, hget, hv⟩ := h.root
    rw [required, hget] at hroot
    exact isComponent_toValue hv hroot
  · refine componentList_written h.components hcomponents ?_ ?_
    · simp [Members.get?_cons, Members.get?_append, Field.get?_toMembers,
        Component.valuesOf_eq_map]
    · intro _ _ v _ hv place c
      exact isComponent_toValue hv
  · exact ((optional_decides config_decides).of_ok hconfig).mono
      fun _ => IsConfig.lower
  · exact (optional_decides text_decides).of_ok hname
  · exact (optional_decides text_decides).of_ok hversion

/-! ### Staying as low -/

/-- A field is written no higher than the value that it was read from. -/
lemma noHigher_toMembers {f : Field α} {other : String}
    (h : optional place ms key read = .ok f)
    (hle : ∀ place v a, ms.get? key = some v → read place v = .ok a →
      (write a).height ≤ v.height) : NoHigher (f.toMembers other write) ms := by
  rcases f with _ | _ | a
  · exact noHigher_nil
  · rcases hget : ms.get? key with _ | v
    · simp [optional, hget] at h
    · exact noHigher_cons_iff.mpr ⟨⟨_, Members.mem_of_get? hget, by simp [height]⟩, noHigher_nil⟩
  · obtain ⟨v, hget, -, hread⟩ := exists_of_optional h rfl
    exact noHigher_cons_iff.mpr ⟨⟨_, Members.mem_of_get? hget, hle _ v a hget hread⟩,
      noHigher_nil⟩

/-- A field that is written as a plain value comes from some value at least. -/
lemma noHigher_plain {f : Field α} {other : String} (hplain : ∀ a, (write a).height = 0)
    (h : optional place ms key read = .ok f) : NoHigher (f.toMembers other write) ms :=
  noHigher_toMembers h fun _ _ a _ _ => by simp [hplain a]

lemma exists_of_required {a : α} (h : required place ms key read = .ok a) :
    ∃ o ∈ ms, o.1 = key ∧ read (place.field key) o.2 = .ok a := by
  rcases hget : ms.get? key with _ | v
  · simp [required, hget, Checked.fail] at h
  · rw [required, hget] at h
    exact ⟨_, Members.mem_of_get? hget, rfl, h⟩

lemma required_plain {a : α} (hplain : ∀ a, (write a).height = 0)
    (h : required place ms key read = .ok a) : ∃ o ∈ ms, (write a).height ≤ o.2.height := by
  obtain ⟨o, ho, -, -⟩ := exists_of_required h
  exact ⟨o, ho, by simp [hplain a]⟩

/-- A map is no higher under the names that are written. -/
lemma height_mapValue_le (xs : Members α τ) :
    (mapValue write xs).height ≤ (obj (xs.mapValues write)).height := by
  rw [mapValue, ← Members.renamed_mapValues]
  refine height_obj_le fun m hm => ?_
  obtain ⟨n, hn, rfl⟩ := Members.exists_of_mem_renamed hm
  exact ⟨n, hn, le_rfl⟩

/-- A map is written no higher if its values are. -/
lemma height_map_le {place : Location τ} {v : Value τ} {xs : Members α τ}
    (h : map read place v = .ok xs)
    (hle : ∀ place v a, read place v = .ok a → (write a).height ≤ v.height) :
    (mapValue write xs).height ≤ v.height := by
  refine (height_mapValue_le xs).trans ?_
  cases v with
  | obj ms =>
      refine height_obj_le ?_
      rw [map] at h
      induction ms generalizing xs with
      | nil =>
          cases h
          exact noHigher_nil
      | cons m rest ih =>
          simp only [entries, Checked.seq_eq_ok_iff, Checked.map_eq_ok_iff] at h
          obtain ⟨_, others, ⟨a, ha, rfl⟩, hothers, rfl⟩ := h
          exact noHigher_cons_iff.mpr ⟨⟨m, List.mem_cons_self, hle _ _ a ha⟩,
            (ih hothers).mono (List.subset_cons_self _ _)⟩
  | _ => simp [map, Checked.fail] at h

lemma height_textMap_le {place : Location τ} {v : Value τ} {texts : Members τ τ}
    (h : textMap place v = .ok texts) : (textMapValue texts).height ≤ v.height :=
  height_map_le h fun _ _ s _ => by simp [height_str]

/-- A binding is an object of texts, and read from an object that holds a text. -/
lemma height_payloadEntry_le {e : PayloadEntry (Scalar τ) τ} (h : payloadEntry place v = .ok e) :
    e.toValue.height ≤ v.height := by
  rcases e with x | b
  · cases x <;> simp [PayloadEntry.toValue, Scalar.toValue, height]
  · cases v with
    | obj ms =>
        rcases hb : binding place (.obj ms) with b' | found
        · obtain ⟨o, ho, -, -⟩ := exists_of_required (binding_eq_ok_iff.mp hb).1
          refine height_obj_le ?_
          simp only [noHigher_cons_iff, height_str]
          exact ⟨⟨o, ho, Nat.zero_le _⟩, ⟨o, ho, Nat.zero_le _⟩, noHigher_nil⟩
        · simp [payloadEntry, hb, Checked.map] at h
    | _ => simp [payloadEntry, scalar, Checked.map] at h

lemma height_payload_le {p : Payload (Scalar τ) τ} {place : Location τ} {v : Value τ}
    (h : payload place v = .ok p) : p.toValue.height ≤ v.height := by
  refine (height_mapValue_le p).trans ?_
  cases v with
  | obj ms =>
      refine height_obj_le ?_
      rw [payload] at h
      induction ms generalizing p with
      | nil =>
          cases h
          exact noHigher_nil
      | cons m rest ih =>
          obtain ⟨key, v⟩ := m
          rw [payloadEntries] at h
          rcases hentry : payloadEntry place v with e | found
          · rcases hrest : payloadEntries place rest with others | found
            · simp only [hentry, hrest, Checked.map, Checked.ok.injEq] at h
              subst h
              exact noHigher_cons_iff.mpr ⟨⟨_, List.mem_cons_self, height_payloadEntry_le hentry⟩,
                (ih hrest).mono (List.subset_cons_self _ _)⟩
            · simp [hentry, hrest, Checked.map] at h
          · simp [hentry] at h
  | _ => simp [payload, Checked.fail] at h

lemma height_action_le {a : Action τ} {place : Location τ} {v : Value τ}
    (h : action place v = .ok a) : a.toValue.height ≤ v.height := by
  cases v with
  | obj ms =>
      obtain ⟨htype, hendpoint, hmethod, hheaders, hpayload, hsuccess, herror⟩ :=
        action_eq_ok_iff.mp h
      refine height_obj_le ?_
      simp only [noHigher_append_iff, noHigher_cons_iff, and_assoc]
      exact ⟨required_plain height_wordValue htype, noHigher_plain height_str hendpoint,
        noHigher_plain height_wordValue hmethod,
        noHigher_toMembers hheaders fun _ _ _ _ => height_textMap_le,
        noHigher_toMembers hpayload fun _ _ _ _ => height_payload_le,
        noHigher_plain height_str hsuccess, noHigher_plain height_str herror⟩
  | _ => simp [action, Checked.fail] at h

lemma height_config_le {c : Config τ} {place : Location τ} {v : Value τ}
    (h : config place v = .ok c) : c.toValue.height ≤ v.height := by
  cases v with
  | obj ms =>
      obtain ⟨htoken, hendpoints, hheaders⟩ := config_eq_ok_iff.mp h
      refine height_obj_le ?_
      simp only [noHigher_append_iff, and_assoc]
      exact ⟨noHigher_plain height_str htoken,
        noHigher_toMembers hendpoints fun _ _ _ _ => height_textMap_le,
        noHigher_toMembers hheaders fun _ _ _ _ => height_textMap_le⟩
  | _ => simp [config, Checked.fail] at h

lemma noHigher_attributes {a : Attributes τ} (kind : ComponentKind)
    (h : attributes place ms = .ok a) : NoHigher (a.toMembers kind) ms := by
  obtain ⟨hid, hstyle, hclassName⟩ := attributes_eq_ok_iff.mp h
  simp only [Attributes.toMembers, noHigher_append_iff, noHigher_cons_iff, and_assoc]
  have hplain (x : StyleValue τ) : x.toValue.height = 0 := by
    cases x <;> simp [StyleValue.toValue, height]
  refine ⟨required_plain height_str hid, noHigher_toMembers hstyle fun _ _ _ _ hmap =>
    height_map_le hmap fun _ _ x _ => by simp [hplain x], noHigher_plain height_str hclassName, ?_⟩
  obtain ⟨o, ho, -, -⟩ := exists_of_required hid
  exact ⟨⟨o, ho, by simp [height_wordValue]⟩, noHigher_nil⟩

lemma noHigher_arrangement {r : Arrangement} (h : arrangement place ms = .ok r) :
    NoHigher r.toMembers ms := by
  obtain ⟨hdirection, hgap, halign⟩ := arrangement_eq_ok_iff.mp h
  simp only [Arrangement.toMembers, noHigher_append_iff, and_assoc]
  exact ⟨noHigher_plain height_wordValue hdirection,
    noHigher_plain (fun x => by simp [height]) hgap, noHigher_plain height_wordValue halign⟩

lemma noHigher_entry {e : Entry τ} (h : entry place ms = .ok e) : NoHigher e.toMembers ms := by
  obtain ⟨hplaceholder, hvalue, hname⟩ := entry_eq_ok_iff.mp h
  simp only [Entry.toMembers, noHigher_append_iff, and_assoc]
  exact ⟨noHigher_plain height_str hplaceholder, noHigher_plain height_str hvalue,
    noHigher_plain height_str hname⟩

lemma height_componentList_le {cs : List (Component τ)}
    (h : componentList around place v = .ok cs)
    (ih : ∀ items, v = .arr items → ∀ w ∈ items, ∀ place c, component around place w = .ok c →
      c.toValue.height ≤ w.height) : (arr (cs.map Component.toValue)).height ≤ v.height := by
  obtain ⟨items, rfl, hcomponents⟩ := exists_of_componentList h
  refine height_arr_le_iff.mpr (List.forall_mem_map.mpr fun c hc => ?_)
  obtain ⟨w, hw, place, hread⟩ := hcomponents c hc
  calc
    c.toValue.height + 1 ≤ w.height + 1 := Nat.succ_le_succ (ih items rfl w hw place c hread)
    _ ≤ (arr items).height := height_arr_le_iff.mp le_rfl w hw

/-- **A component is written no higher than the value that it was read from.** -/
theorem height_component_le {c : Component τ} (h : IsComponent false v)
    (hread : component around place v = .ok c) : c.toValue.height ≤ v.height := by
  induction v using Value.treeInd generalizing around place c with
  | other v hv => cases h <;> simp [Value.obj?] at hv
  | obj ms ih =>
      rcases h with @⟨_, items, type, _, _, children, each⟩ | ⟨type, _, _⟩ | ⟨type, _, _⟩ |
        ⟨type, _, _, _⟩
      · obtain ⟨-, a, r, f, ha, hr, hf, rfl⟩ := (component_container_eq_ok_iff type).mp hread
        rw [Component.toValue_container]
        refine height_obj_le ?_
        simp only [noHigher_append_iff]
        refine ⟨⟨noHigher_attributes _ ha, noHigher_arrangement hr⟩, noHigher_toMembers hf ?_⟩
        intro _ v _ hget hlist
        refine height_componentList_le hlist ?_
        rintro given rfl w hw place c
        refine ih "children" given hget w hw (each w ?_)
        cases children <;> simp_all
      · obtain ⟨-, a, content, ha, hcontent, rfl⟩ := (component_text_eq_ok_iff type).mp hread
        refine height_obj_le ?_
        simp only [noHigher_append_iff, noHigher_cons_iff]
        exact ⟨noHigher_attributes _ ha, required_plain height_str hcontent, noHigher_nil⟩
      · obtain ⟨-, a, e, ha, he, rfl⟩ := (component_input_eq_ok_iff type).mp hread
        refine height_obj_le ?_
        simp only [noHigher_append_iff]
        exact ⟨noHigher_attributes _ ha, noHigher_entry he⟩
      · obtain ⟨-, a, content, act, ha, hcontent, hact, rfl⟩ :=
          (component_button_eq_ok_iff type).mp hread
        refine height_obj_le ?_
        simp only [noHigher_append_iff, noHigher_cons_iff]
        exact ⟨noHigher_attributes _ ha, required_plain height_str hcontent,
          noHigher_toMembers hact fun _ _ _ _ => height_action_le⟩

/-- **A document is written no higher than the value that it was read from.** -/
theorem height_document_le {d : Document τ} (h : IsDocument false v) (hread : document v = .ok d) :
    d.toValue.height ≤ v.height := by
  obtain ⟨ms, rfl, h⟩ := h
  obtain ⟨hname, hversion, hconfig, hroot, hcomponents⟩ := document_eq_ok_iff.mp hread
  refine height_obj_le ?_
  simp only [noHigher_append_iff, noHigher_cons_iff, Component.valuesOf_eq_map, and_assoc]
  refine ⟨noHigher_plain height_str hname, noHigher_plain height_str hversion,
    noHigher_toMembers hconfig fun _ _ _ _ => height_config_le, ?_,
    noHigher_toMembers hcomponents fun _ v cs hget hlist => height_componentList_le hlist ?_⟩
  · obtain ⟨v, hget, hv⟩ := h.root
    rw [required, hget] at hroot
    exact ⟨_, Members.mem_of_get? hget, height_component_le hv hroot⟩
  · rintro items rfl w hw place c
    obtain ⟨_, ⟨⟩, each⟩ := h.components _ hget (by simp)
    exact height_component_le (each w hw)

end Reading

/-! ### Accepting again -/

section

variable {τ : Type} [DecidableEq τ] [Textual τ] {limit : ℤ} {v : Value τ} {d : Document τ}

/-- The written form of an accepted document is accepted under each limit that its value keeps
to. -/
lemma validate_toValue_eq {other : ℤ} (h : validate limit v = .ok d) (hother : v.height ≤ other) :
    validate other d.toValue = .ok d.renamed := by
  obtain ⟨-, hlower, hread⟩ := validate_eq_ok_iff.mp h
  have hle := Reading.height_document_le hlower hread
  exact validate_eq_ok_iff.mpr
    ⟨by omega, Reading.isDocument_toValue hlower hread,
      Reading.document_toValue (Reading.fits_of_document hread)⟩

/-- **A document that was accepted is accepted again, under the names that are written**, by itself
and by its written form, and it is written again as it was. It is the same document exactly if every
name in its maps is written as it is. -/
theorem revalidate_of_validate (h : validate limit v = .ok d) :
    revalidate limit d = .ok d.renamed ∧ validate limit d.toValue = .ok d.renamed ∧
      d.renamed.toValue = d.toValue ∧
      (d.renamed = d ↔ ∀ name ∈ d.names, Textual.asName name = name) := by
  have hwritten := validate_toValue_eq h (validate_eq_ok_iff.mp h).1
  exact ⟨hwritten, hwritten, d.toValue_renamed, d.renamed_eq_self_iff⟩

end

/-- A form with an integer for a gap, a second name, a member that is not known, and a binding
without a path. -/
def plainForm : Value :=
  .obj [("root", .obj [("id", .str "form"), ("type", .str "container"), ("gap", .int 8),
    ("children", .arr [.obj [("id", .str "send"), ("type", .str "button"), ("text", .str "Send"),
      ("class_name", .str "wide"), ("title", .null), ("action", .obj [("type", .str "log"),
        ("payload", .obj [("who", .obj [("component", .str "name")])])])]])])]

/-- In a form of strings all names are written as they are. -/
theorem revalidate_plainForm :
    ∃ d, validate 100 plainForm = .ok d ∧ revalidate 100 d = .ok d ∧
      validate 100 d.toValue = .ok d ∧ d.renamed.toValue = d.toValue ∧
      ∀ name ∈ d.names, Textual.asName name = name := by
  have hok : (validate 100 plainForm).isOk := by decide +kernel
  rcases h : validate 100 plainForm with r | d
  · rw [h] at hok
    exact nomatch hok
  · obtain ⟨hagain, hreread, hwritten, hnames⟩ := revalidate_of_validate h
    rw [d.renamed_string] at hagain hreread hnames
    exact ⟨d, rfl, hagain, hreread, hwritten, hnames.mp rfl⟩

/-- The last of the surrogates. -/
def strayName : RawText := [.surrogate (Fin.last 0x7FF)]

/-- A text with a style whose one name is a surrogate. -/
def strayForm : Value RawText :=
  .obj [("root", .obj [("id", .str "r"), ("type", .str "text"), ("text", .str "x"),
    ("style", .obj [(strayName, .str "k")])])]

/-- A surrogate is not written as it is, so the form that is accepted again is another one. -/
theorem revalidate_strayForm :
    ∃ d e, validate 100 strayForm = .ok d ∧ d.names = [strayName] ∧ revalidate 100 d = .ok e ∧
      e ≠ d := by
  have hnames : (validate 100 strayForm).toOption.map Document.names = some [strayName] := by
    decide +kernel
  rcases h : validate 100 strayForm with r | d
  · rw [h] at hnames
    cases hnames
  · rw [h] at hnames
    have hnames : d.names = [strayName] := Option.some.inj hnames
    refine ⟨d, d.renamed, rfl, hnames, validate_toValue_eq h (validate_eq_ok_iff.mp h).1, ?_⟩
    rw [ne_eq, d.renamed_eq_self_iff, hnames]
    decide

end LivePage
