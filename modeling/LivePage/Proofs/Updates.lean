/-
Runs of updates on a store. The state that a component comes to have is told from the updates that
are addressed to it, in their order, so that updates of different components may come in any order.

* `Store.Update`, `Store.updated`: what can be done to a store, one thing after the other;
* `Store.Update.onState`: what an update makes of the state that it is addressed to;
* `Store.read_updated`: the state of one component behind a run;
* `Value.NamedOnce`, `Value.agrees_self`: values in which no object repeats a name;
* `Store.Projects`, `updates_project`: runs of updates.
-/
import LivePage.Proofs.Inputs
import LivePage.Proofs.Nesting
import LivePage.Session

namespace LivePage

/-! ### Values that agree with themselves -/

namespace Value

/-- No object in a value repeats a name. -/
def NamedOnce (v : Value) : Prop :=
  v.Throughout fun
    | .obj members => (Members.keys members).Nodup
    | _ => True

variable {members others : Members Value}

lemma namedOnce_obj_iff :
    NamedOnce (.obj members) ↔ members.keys.Nodup ∧ ∀ m ∈ members, m.2.NamedOnce :=
  throughout_obj_iff

lemma agreeItems_self {items : List Value} (h : ∀ v ∈ items, v.agrees v = true) :
    agreeItems items items = true := by
  induction items with
  | nil => rfl
  | cons v rest ih =>
      rw [List.forall_mem_cons] at h
      rw [agreeItems, h.1, ih h.2, Bool.and_self]

lemma agreeMembers_of_get? (h : ∀ m ∈ members, ∃ w, others.get? m.1 = some w ∧ m.2.agrees w) :
    agreeMembers members others = true := by
  induction members with
  | nil => rfl
  | cons m rest ih =>
      obtain ⟨key, v⟩ := m
      rw [List.forall_mem_cons] at h
      obtain ⟨⟨w, hget, hagrees⟩, hrest⟩ := h
      rw [Members.get?] at hget
      simp [agreeMembers, hget, hagrees, ih hrest]

/-- A value agrees with itself. In an object that repeats a name only the first value is looked
at, so that none may. -/
theorem agrees_self {v : Value} (h : v.NamedOnce) : v.agrees v = true := by
  induction v using ind with
  | null => rfl
  | bool b => simp [agrees, sameNumber, numeric?]
  | int n => simp [agrees, sameNumber, numeric?]
  | num x => cases x <;> simp [agrees, sameNumber, numeric?, Double.sameNumber]
  | str s => simp [agrees, str?]
  | arr items ih => exact agreeItems_self fun v hv => ih v hv (h.item hv)
  | obj members ih =>
      obtain ⟨hnodup, hmembers⟩ := namedOnce_obj_iff.mp h
      have hagree : agreeMembers members members = true := agreeMembers_of_get? fun m hm =>
        ⟨m.2, Members.get?_of_mem hnodup hm, ih m hm (hmembers m hm)⟩
      simp [agrees, hagree]

end Value

namespace Store

/-! ### Updates -/

/-- What can be done to the state of a component. -/
inductive Update
  | write (id : String) (state : Value)
  | merge (id : String) (changes : Members Value)

namespace Update

/-- The component that an update is addressed to. -/
def id : Update → String
  | .write id _ => id
  | .merge id _ => id

/-- What an update makes of a state, which may be missing. -/
def onState (before : Option Value) : Update → Value
  | .write _ state => state
  | .merge _ changes => .obj (((before.bind Value.obj?).getD []).putAll changes)

/-- The values that an update brings repeat no names. -/
def NamedOnce : Update → Prop
  | .write _ state => state.NamedOnce
  | .merge _ changes => ∀ m ∈ changes, m.2.NamedOnce

end Update

/-- The store after an update. -/
def after (store : Store) : Update → Store
  | .write id state => store.write id state
  | .merge id changes => store.merge id changes

/-- The store after some updates, one after the other. -/
def updated (store : Store) (updates : List Update) : Store := updates.foldl after store

/-- The updates that are addressed to a component. -/
def addressed (id : String) (updates : List Update) : List Update :=
  updates.filter fun update => update.id = id

/-- What some updates that are addressed to one component make of its state. -/
def stateAfter (before : Option Value) (updates : List Update) : Option Value :=
  updates.foldl (fun state update => some (update.onState state)) before

variable {store other : Store} {id : String} {before : Option Value} {update : Update}
  {updates : List Update} {changes : Members Value}

lemma after_eq_write (store : Store) (update : Update) :
    store.after update = store.write update.id (update.onState (store.read update.id)) := by
  cases update <;> rfl

/-- An update is seen under its id, and nowhere else. -/
lemma read_after (store : Store) (update : Update) (id : String) :
    (store.after update).read id =
      if update.id = id then some (update.onState (store.read id)) else store.read id := by
  rw [after_eq_write]
  split_ifs with hid
  · subst hid
    exact read_write_self store update.id _
  · exact read_write_of_ne store _ (Ne.symm hid)

/-- **The state of a component behind a run** is what the updates that are addressed to it make of
the state before. -/
theorem read_updated (store : Store) (updates : List Update) (id : String) :
    (store.updated updates).read id = stateAfter (store.read id) (addressed id updates) := by
  induction updates generalizing store with
  | nil => rfl
  | cons update rest ih =>
      have hstep : (store.updated (update :: rest)).read id =
          stateAfter ((store.after update).read id) (addressed id rest) := ih (store.after update)
      rw [hstep, read_after]
      by_cases hid : update.id = id
      · rw [if_pos hid, addressed, addressed, List.filter_cons_of_pos (by simpa using hid)]
        rfl
      · rw [if_neg hid, addressed, addressed, List.filter_cons_of_neg (by simpa using hid)]

lemma stateAfter_eq_none_iff : stateAfter before updates = none ↔ before = none ∧ updates = [] := by
  induction updates generalizing before with
  | nil => simp [stateAfter]
  | cons update rest ih =>
      have hstep : stateAfter before (update :: rest) =
          stateAfter (some (update.onState before)) rest := rfl
      simp [hstep, ih]

/-! ### Merged states -/

/-- The members of a state that may be missing, none when it is no object. -/
lemma get?_members (before : Option Value) (key : String) :
    Members.get? ((before.bind Value.obj?).getD []) key = before.bind (·.member? key) := by
  rcases before with _ | v
  · rfl
  · cases v <;> rfl

lemma get?_merged_of_mem {m : String × Value} (hnodup : changes.keys.Nodup) (hm : m ∈ changes) :
    Members.get? (((before.bind Value.obj?).getD []).putAll changes) m.1 = some m.2 := by
  have hkeys : (Members.keys changes.reverse).Nodup := by
    rw [Members.keys, List.map_reverse, List.nodup_reverse]
    exact hnodup
  rw [Members.get?_putAll, Members.get?_of_mem hkeys (List.mem_reverse.mpr hm), Option.some_or]

lemma get?_merged_of_notMem {key : String} (hkey : key ∉ changes.keys) :
    Members.get? (((before.bind Value.obj?).getD []).putAll changes) key =
      before.bind (·.member? key) := by
  have hnone : Members.get? changes.reverse key = none := by
    rw [Members.get?_eq_none_iff, Members.keys, List.map_reverse, List.mem_reverse]
    exact hkey
  rw [Members.get?_putAll, hnone, Option.none_or, get?_members]

/-! ### Stores that agree -/

lemma namedOnce_onState (hbefore : ∀ v, before = some v → v.NamedOnce)
    (hupdate : update.NamedOnce) : (update.onState before).NamedOnce := by
  cases update with
  | write id state => exact hupdate
  | merge id changes =>
      have hmembers : Value.NamedOnce (.obj ((before.bind Value.obj?).getD [])) := by
        rcases before with _ | v
        · exact Value.namedOnce_obj_iff.mpr ⟨List.nodup_nil, nofun⟩
        · cases v
          case obj members => exact hbefore _ rfl
          all_goals exact Value.namedOnce_obj_iff.mpr ⟨List.nodup_nil, nofun⟩
      obtain ⟨hnodup, hvalues⟩ := Value.namedOnce_obj_iff.mp hmembers
      exact Value.namedOnce_obj_iff.mpr
        ⟨Members.nodup_keys_putAll hnodup, Members.forall_putAll hvalues hupdate⟩

/-- Updates that repeat no names leave a store that repeats none. -/
lemma namedOnce_updated (hstore : Value.NamedOnce (.obj store))
    (hupdates : ∀ update ∈ updates, update.NamedOnce) :
    Value.NamedOnce (.obj (store.updated updates)) := by
  induction updates generalizing store with
  | nil => exact hstore
  | cons update rest ih =>
      rw [List.forall_mem_cons] at hupdates
      refine ih ?_ hupdates.2
      obtain ⟨hnodup, hvalues⟩ := Value.namedOnce_obj_iff.mp hstore
      have hstate : (update.onState (store.read update.id)).NamedOnce :=
        namedOnce_onState (fun v hv => hvalues _ (Members.mem_of_get? hv)) hupdates.1
      rw [after_eq_write]
      exact Value.namedOnce_obj_iff.mpr
        ⟨Members.nodup_keys_put hnodup, Members.forall_put hvalues hstate⟩

/-- Stores in which the same states are read agree, whatever the order of their ids. -/
lemma agrees_of_read (hstore : Value.NamedOnce (.obj store)) (hother : other.keys.Nodup)
    (hread : ∀ id, store.read id = other.read id) : store.agrees other = true := by
  obtain ⟨hnodup, hvalues⟩ := Value.namedOnce_obj_iff.mp hstore
  have hids (id : String) : id ∈ store.keys ↔ id ∈ other.keys := by
    rw [Members.mem_keys_iff, Members.mem_keys_iff]
    exact exists_congr fun v => by rw [← read, hread, read]
  have hlength : store.keys.length = other.keys.length :=
    ((List.perm_ext_iff_of_nodup hnodup hother).mpr hids).length_eq
  have hmembers : Value.agreeMembers store other = true :=
    Value.agreeMembers_of_get? fun m hm => by
      refine ⟨m.2, ?_, Value.agrees_self (hvalues m hm)⟩
      rw [← read, ← hread, read, Members.get?_of_mem hnodup hm]
  rw [Members.keys, List.length_map, Members.keys, List.length_map] at hlength
  simp [agrees, Value.agrees, hlength, hmembers]

/-- What there is to say of a run of updates on a store. -/
structure Projects (store : Store) (updates : List Update) : Prop where
  /-- The state of a component comes from the updates that are addressed to it. -/
  read_eq : ∀ id,
    (store.updated updates).read id = stateAfter (store.read id) (addressed id updates)
  absent_iff : ∀ id, (store.updated updates).read id = none ↔
    store.read id = none ∧ addressed id updates = []
  /-- Of these, one that writes replaces the state. -/
  write : ∀ before id state, (Update.write id state).onState before = state
  /-- One that merges sets the members that it brings, and keeps the other members of the state, of
  which there are none when it is missing or no object. -/
  merge : ∀ before id changes, ∃ ms : Members Value,
    (Update.merge id changes).onState before = .obj ms ∧
      (changes.keys.Nodup → ∀ m ∈ changes, ms.get? m.1 = some m.2) ∧
      ∀ key, key ∉ changes.keys → ms.get? key = before.bind (·.member? key)
  /-- Runs in which every component has the same updates in the same order lead to the same
  states. -/
  read_congr : ∀ others, (∀ id, addressed id others = addressed id updates) →
    ∀ id, (store.updated others).read id = (store.updated updates).read id
  /-- The stores themselves agree. -/
  agrees : ∀ others, (∀ id, addressed id others = addressed id updates) →
    Value.NamedOnce (.obj store) → (∀ update ∈ updates, update.NamedOnce) →
      (store.updated others).agrees (store.updated updates) = true
  /-- What is written in a session is merged into its store. -/
  session : ∀ (s : Session) (edits : List (String × Members Value)), s.store = store →
    updates = edits.map (fun edit => .merge edit.1 edit.2) →
      (edits.foldl (fun s edit => s.write edit.1 edit.2) s).store = store.updated updates

lemma store_writes (s : Session) (edits : List (String × Members Value)) :
    (edits.foldl (fun s edit => s.write edit.1 edit.2) s).store =
      Store.updated s.store (edits.map fun edit => .merge edit.1 edit.2) := by
  induction edits generalizing s with
  | nil => rfl
  | cons edit rest ih => exact ih (s.write edit.1 edit.2)

/-- Every update is addressed to some component. -/
lemma mem_of_addressed_eq {others : List Update}
    (hsame : ∀ id, addressed id others = addressed id updates) (hmem : update ∈ others) :
    update ∈ updates := by
  have haddressed : update ∈ addressed update.id others := by simp [addressed, hmem]
  rw [hsame] at haddressed
  exact List.mem_of_mem_filter haddressed

end Store

/-- **Runs of updates.** The state of each component is what its own updates make of it, in their
order; how they stand among the updates of other components does not matter. -/
theorem updates_project (store : Store) (updates : List Store.Update) :
    store.Projects updates where
  read_eq := Store.read_updated store updates
  absent_iff id := by rw [Store.read_updated, Store.stateAfter_eq_none_iff]
  write before id state := rfl
  merge before id changes :=
    ⟨_, rfl, fun hnodup m hm => Store.get?_merged_of_mem hnodup hm,
      fun key hkey => Store.get?_merged_of_notMem hkey⟩
  read_congr others hsame id := by
    rw [Store.read_updated, Store.read_updated, hsame]
  agrees others hsame hstore hupdates := by
    have hothers : ∀ update ∈ others, update.NamedOnce :=
      fun update hmem => hupdates update (Store.mem_of_addressed_eq hsame hmem)
    refine Store.agrees_of_read (Store.namedOnce_updated hstore hothers)
      (Value.namedOnce_obj_iff.mp (Store.namedOnce_updated hstore hupdates)).1 fun id => ?_
    rw [Store.read_updated, Store.read_updated, hsame]
  session s edits hstore hupdates := by
    rw [Store.store_writes, hstore, hupdates]

/-- A state that is written and then merged into, although it is no object, and between the two a
merge for another component. -/
def interleaved : List Store.Update :=
  [.write "a" (.int 1), .merge "b" [("x", .int 2)], .merge "a" [("y", .null)]]

/-- The same updates, those of the other component first. -/
def reordered : List Store.Update :=
  [.merge "b" [("x", .int 2)], .write "a" (.int 1), .merge "a" [("y", .null)]]

theorem updates_project_interleaved :
    Store.updated [] interleaved = [("a", .obj [("y", .null)]), ("b", .obj [("x", .int 2)])] ∧
      Store.updated [] reordered = [("b", .obj [("x", .int 2)]), ("a", .obj [("y", .null)])] ∧
      (Store.updated [] reordered).agrees (Store.updated [] interleaved) = true := by
  refine ⟨rfl, rfl, (updates_project [] interleaved).agrees reordered (fun id => ?_) ?_ ?_⟩
  · by_cases ha : "a" = id
    · subst ha
      rfl
    · simp [Store.addressed, interleaved, reordered, List.filter_cons, Store.Update.id, ha]
  · exact Value.namedOnce_obj_iff.mpr ⟨List.nodup_nil, nofun⟩
  · have hplain (v : Value) (harr : ∀ items, v ≠ .arr items) (hobj : ∀ ms, v ≠ .obj ms) :
        v.NamedOnce := by
      refine (Value.throughout_plain_iff v harr hobj).mpr ?_
      cases v <;> first | trivial | exact absurd rfl (hobj _)
    simp [interleaved, Store.Update.NamedOnce, hplain]

end LivePage
