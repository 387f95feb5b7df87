/-
What sessions keep to, whatever is done to them but writing past the inputs. The
page in a session shows its document with the present states, and the store has
the states of its inputs and no others.

* `Session.Current`: what a session keeps to;
* `Session.change_eq_ok_iff`, `Session.Altered`: a change alters one state;
* `Host.attempt`: what a move comes to, which may be that nothing is found;
* `Host.after_of_attempt_error`: nothing is written before it is found;
* `Host.sessions_after`: what a move makes of the sessions;
* `Host.IsCurrent.after`, `Host.IsCurrent.afterAll`: moves keep all sessions
  current;
* `orderly_of_reached`: a host in a run of moves.
-/
import LivePage.Proofs.Activation
import LivePage.Proofs.Display

namespace LivePage

/-! ### One session -/

lemma Store.merge_valueChange {store : Store} {id : String} {old : Value}
    (hread : store.read id = some (.obj [("value", old)])) (v : Value) :
    store.merge id (valueChange v) = store.write id (.obj [("value", v)]) := by
  rw [merge, hread]
  rfl

lemma Store.keys_write {store : Store} {id : String} (hid : id ∈ store.keys) (state : Value) :
    (store.write id state).keys = store.keys := by
  rw [write, Members.keys_put, if_pos hid]

namespace Session

/-- The page shows the document with the present states, and the store has the states of its
inputs, each of which has a value and nothing else. -/
structure Current (s : Session) : Prop where
  page : s.page = s.document.root.render s.store
  nodup_keys : s.store.keys.Nodup
  mem_keys_iff : ∀ id, id ∈ s.store.keys ↔ id ∈ s.document.inputs.keys
  state : ∀ id state, s.store.read id = some state → ∃ v, state = .obj [("value", v)]

/-- A session is as before, but that one input has a new value. -/
structure Altered (s next : Session) (id : String) (v : Value) : Prop where
  document : next.document = s.document
  keys : next.store.keys = s.store.keys
  self : next.store.read id = some (.obj [("value", v)])
  others : ∀ other, other ≠ id → next.store.read other = s.store.read other

variable {s next : Session} {id : String} {v : Value}

/-- A change of what is shown as an input writes its value. -/
lemma change_of_shows (hshows : s.Shows id "input") (v : Value) :
    s.change id v = (.ok (), (s.write id (valueChange v)).rendered) := by
  rw [change]
  rcases hnode : s.node id "input" with e | n
  · exact absurd hshows (node_eq_error_iff.mp hnode).1
  · simp only [id_of_find? (node_eq_ok_iff.mp hnode).1]

/-- A change of anything else fails before it writes. -/
lemma change_of_not_shows (hshows : ¬s.Shows id "input") (v : Value) :
    s.change id v = (.error ⟨"input", id⟩, s) := by
  rw [change, node_eq_error_iff.mpr ⟨hshows, rfl⟩]

lemma change_eq_ok_iff :
    s.change id v = (.ok (), next) ↔
      s.Shows id "input" ∧ next = (s.write id (valueChange v)).rendered := by
  by_cases hshows : s.Shows id "input"
  · simp [change_of_shows hshows, hshows, eq_comm]
  · simp [change_of_not_shows hshows, hshows]

lemma change_fst_eq_error_iff {e : LookupError} :
    (s.change id v).1 = .error e ↔ ¬s.Shows id "input" ∧ e = ⟨"input", id⟩ := by
  by_cases hshows : s.Shows id "input"
  · simp [change_of_shows hshows, hshows]
  · simp [change_of_not_shows hshows, hshows, eq_comm]

lemma clicked_eq_error_iff {e : LookupError} :
    s.clicked id = .error e ↔ ¬s.Shows id "button" ∧ e = ⟨"button", id⟩ := by
  rw [← node_eq_error_iff, clicked]
  cases s.node id "button" <;> simp [Except.map]

lemma mount_current (d : Document) : (mount d).Current where
  page := rfl
  nodup_keys := Store.nodup_keys_ofDocument d
  mem_keys_iff _ := Store.mem_keys_ofDocument_iff
  state id state hread := by
    rw [mount, Store.read_ofDocument] at hread
    obtain ⟨entry, -, rfl⟩ := Option.map_eq_some_iff.mp hread
    exact ⟨_, rfl⟩

namespace Current

lemma rendered (hcurrent : s.Current) : s.rendered.Current := { hcurrent with page := rfl }

/-- What the page shows as an input has a state. -/
lemma mem_keys_of_shows (hcurrent : s.Current) (hshows : s.Shows id "input") :
    id ∈ s.store.keys := by
  obtain ⟨n, hfind, htag⟩ := hshows
  have hfound := Component.find?_render s.store s.document.root id
  rw [← hcurrent.page, hfind, Option.map_some] at hfound
  obtain ⟨c, hc, helement⟩ := Option.map_eq_some_iff.mp hfound.symm
  rw [hcurrent.mem_keys_iff, Document.mem_keys_inputs_iff]
  have hid : c.id = id := by simpa using List.find?_some hc
  have htag : c.kind.tag = "input" := by
    rw [← Component.element_tag s.store, helement]
    exact htag
  -- no other kind of component has the tag of an input
  cases c with
  | input a e => exact ⟨a, e, List.mem_of_find?_eq_some hc, hid⟩
  | container | text | button => simp [Component.kind, ComponentKind.tag] at htag

lemma exists_read (hcurrent : s.Current) (hid : id ∈ s.store.keys) :
    ∃ old, s.store.read id = some (.obj [("value", old)]) := by
  obtain ⟨state, hread⟩ := Members.mem_keys_iff.mp hid
  obtain ⟨old, rfl⟩ := hcurrent.state id state hread
  exact ⟨old, hread⟩

/-- A change writes a state that is there already. -/
lemma store_change (hcurrent : s.Current) (hchange : s.change id v = (.ok (), next)) :
    id ∈ s.store.keys ∧ next.store = s.store.write id (.obj [("value", v)]) := by
  obtain ⟨hshows, rfl⟩ := change_eq_ok_iff.mp hchange
  have hid := hcurrent.mem_keys_of_shows hshows
  obtain ⟨old, hread⟩ := hcurrent.exists_read hid
  exact ⟨hid, Store.merge_valueChange hread v⟩

lemma altered (hcurrent : s.Current) (hchange : s.change id v = (.ok (), next)) :
    s.Altered next id v := by
  obtain ⟨hid, hstore⟩ := hcurrent.store_change hchange
  obtain ⟨-, rfl⟩ := change_eq_ok_iff.mp hchange
  exact {
    document := rfl
    keys := by rw [hstore, Store.keys_write hid]
    self := by rw [hstore, Store.read_write_self]
    others := fun other hother => by rw [hstore, Store.read_write_of_ne _ _ hother] }

lemma change (hcurrent : s.Current) (hchange : s.change id v = (.ok (), next)) : next.Current := by
  have haltered := hcurrent.altered hchange
  refine {
    page := ?_
    nodup_keys := haltered.keys ▸ hcurrent.nodup_keys
    mem_keys_iff := fun other => by
      rw [haltered.keys, haltered.document, hcurrent.mem_keys_iff]
    state := fun other state hread => ?_ }
  · obtain ⟨-, rfl⟩ := change_eq_ok_iff.mp hchange
    rfl
  · by_cases hother : other = id
    · rw [hother, haltered.self, Option.some.injEq] at hread
      exact ⟨v, hread.symm⟩
    · rw [haltered.others other hother] at hread
      exact hcurrent.state other state hread

end Current

end Session

/-! ### Moves -/

namespace Host

variable {h : Host} {n : ℕ}

/-- Whether a move writes to a store directly. -/
def Move.isWrite : Move → Bool
  | .write .. => true
  | _ => false

/-- What a move looks for: the session, the id and the tag. -/
def Move.target? : Move → Option (ℕ × String × String)
  | .change n id _ => some (n, id, "input")
  | .press n id | .click n id => some (n, id, "button")
  | _ => none

/-- What a move comes to: the host behind it, unless it looks for something that is not there. -/
def attempt (h : Host) : Move → Except LookupError Host
  | .change n id v => (h.change n id v).1.map fun _ => (h.change n id v).2
  | .press n id => (h.press n id).1.map fun _ => (h.press n id).2
  | .click n id => (h.activation n id false).map fun task => (h.run task).1
  | move => .ok (h.after move)

/-- The first node with an id in a session has a tag. -/
def Shows (h : Host) (n : ℕ) (id tag : String) : Prop :=
  ∃ s, h.sessions[n]? = some s ∧ s.Shows id tag

section

variable {id tag : String}

lemma change_fst_eq_error_iff {v : Value} {e : LookupError} :
    (h.change n id v).1 = .error e ↔ ¬h.Shows n id "input" ∧ e = ⟨"input", id⟩ := by
  rw [change, Shows]
  rcases h.sessions[n]? with _ | s
  · simp [eq_comm]
  · simp [Session.change_fst_eq_error_iff]

lemma activation_eq_error_iff (pressed : Bool) {e : LookupError} :
    h.activation n id pressed = .error e ↔ ¬h.Shows n id "button" ∧ e = ⟨"button", id⟩ := by
  rw [activation, lookup, Shows]
  rcases h.sessions[n]? with _ | s
  · simp [eq_comm]
  · rcases hclicked : s.clicked id with e' | action
    · have hiff := Session.clicked_eq_error_iff.mp hclicked
      simp [hiff.1, hiff.2, hclicked, Except.map, eq_comm]
    · have hshows : s.Shows id "button" := by
        by_contra hnone
        rw [Session.clicked_eq_error_iff.mpr ⟨hnone, rfl⟩] at hclicked
        cases hclicked
      simp [hshows, hclicked, Except.map]

lemma press_fst_eq_error_iff {e : LookupError} :
    (h.press n id).1 = .error e ↔ ¬h.Shows n id "button" ∧ e = ⟨"button", id⟩ := by
  rw [← activation_eq_error_iff true, press]
  cases h.activation n id true <;> simp

/-- What is made of a result fails as it does. -/
lemma map_eq_error_iff {α β : Type} {result : Except LookupError α} {f : α → β}
    {e : LookupError} : result.map f = .error e ↔ result = .error e := by
  cases result <;> simp [Except.map]

/-- A move fails exactly if it looks for something that is not shown. -/
lemma exists_attempt_error_iff {move : Move} :
    (∃ e, h.attempt move = .error e) ↔
      ∃ n id tag, move.target? = some (n, id, tag) ∧ ¬h.Shows n id tag := by
  cases move with
  | change n id v =>
      simp [attempt, Move.target?, map_eq_error_iff, change_fst_eq_error_iff]
  | press n id => simp [attempt, Move.target?, map_eq_error_iff, press_fst_eq_error_iff]
  | click n id => simp [attempt, Move.target?, map_eq_error_iff, activation_eq_error_iff]
  | _ => simp [attempt, Move.target?]

/-- A move that succeeds is made. -/
lemma after_of_attempt {move : Move} {next : Host} (hattempt : h.attempt move = .ok next) :
    h.after move = next := by
  have hmap {α : Type} {result : Except LookupError α}
      (hresult : result.map (fun _ => h.after move) = .ok next) : h.after move = next := by
    cases result <;> cases hresult
    rfl
  cases move with
  | change | press => exact hmap hattempt
  | click n id =>
      rw [attempt] at hattempt
      rw [after]
      rcases hactivation : h.activation n id false with e | task <;> rw [hactivation] at hattempt
      · cases hattempt
      · exact Except.ok.inj hattempt
  | _ => exact Except.ok.inj hattempt

lemma change_of_attempt {v : Value} {next : Host}
    (hattempt : h.attempt (.change n id v) = .ok next) : h.change n id v = (.ok (), next) := by
  have hnext : (h.change n id v).2 = next := after_of_attempt hattempt
  rw [attempt] at hattempt
  rcases hchange : h.change n id v with ⟨_ | ⟨⟨⟩⟩, other⟩ <;> rw [hchange] at hattempt hnext
  · cases hattempt
  · rw [← hnext]

/-- **A move that fails has changed nothing**: what it looks for is looked up before anything is
written. -/
lemma after_of_attempt_error {move : Move} {e : LookupError}
    (hattempt : h.attempt move = .error e) : h.after move = h := by
  cases move with
  | change n id v =>
      have hshows := (change_fst_eq_error_iff.mp (map_eq_error_iff.mp hattempt)).1
      rw [after_change]
      refine (modify_congr fun s hs => ?_).trans modify_id
      exact congrArg Prod.snd (Session.change_of_not_shows (fun h => hshows ⟨s, hs, h⟩) v)
  | press n id =>
      have hpress := press_fst_eq_error_iff.mp (map_eq_error_iff.mp hattempt)
      rw [after, press, (activation_eq_error_iff true).mpr hpress]
  | click n id => rw [after, map_eq_error_iff.mp hattempt]
  | _ => cases hattempt

end

/-! ### What a move makes of the sessions -/

/-- What a move may make of a session. -/
inductive Move.Takes (move : Move) (s : Session) : Session → Prop
  | same : Takes move s s
  | rendered : Takes move s s.rendered
  | changed {n : ℕ} {id : String} {v : Value} {next : Session} (hmove : move = .change n id v)
      (hchange : s.change id v = (.ok (), next)) : Takes move s next
  | written {n : ℕ} {id : String} {changes : Members Value} (hmove : move = .write n id changes) :
      Takes move s (s.write id changes)

/-- The sessions that a move adds. -/
def Move.mounted : Move → List Session
  | .mount d => [.mount d]
  | _ => []

lemma sessions_run (h : Host) (task : Task) :
    ∃ f, (f = id ∨ f = Session.rendered) ∧
      (h.run task).1.sessions = h.sessions.modify task.session f := by
  have hsame := (List.modify_id task.session h.sessions).symm
  rcases task with ⟨n, pressed, ⟨_ | order, store⟩ | ⟨order, reply⟩⟩
  · exact ⟨_, .inr rfl, rfl⟩
  · simp only [run]
    split
    · exact ⟨id, .inl rfl, hsame⟩
    · split
      · exact ⟨_, .inr rfl, rfl⟩
      · simp only [send]
        split
        · exact ⟨id, .inl rfl, hsame⟩
        · exact ⟨_, .inr rfl, rfl⟩
  · exact ⟨_, .inr rfl, rfl⟩

/-- **What a move makes of the sessions.** It takes one of them to another, and may add one. -/
theorem sessions_after (h : Host) (move : Move) :
    ∃ m f, (∀ s, move.Takes s (f s)) ∧
      (h.after move).sessions = h.sessions.modify m f ++ move.mounted := by
  have hsame : h.sessions = h.sessions.modify 0 id ++ [] := by
    rw [List.modify_id, List.append_nil]
  have hrun (task : Task) : ∃ m f, (∀ s, move.Takes s (f s)) ∧
      (h.run task).1.sessions = h.sessions.modify m f ++ [] := by
    obtain ⟨f, rfl | rfl, hf⟩ := h.sessions_run task
    · exact ⟨_, _, fun _ => .same, hf.trans (List.append_nil _).symm⟩
    · exact ⟨_, _, fun _ => .rendered, hf.trans (List.append_nil _).symm⟩
  cases move with
  | mount d => exact ⟨0, id, fun _ => .same, by rw [List.modify_id]; rfl⟩
  | change n id v =>
      rw [after_change]
      refine ⟨n, _, fun s => ?_, (List.append_nil _).symm⟩
      by_cases hshows : s.Shows id "input"
      · rw [Session.change_of_shows hshows]
        exact .changed rfl (Session.change_of_shows hshows v)
      · rw [Session.change_of_not_shows hshows]
        exact .same
  | write n id changes => exact ⟨n, _, fun _ => .written rfl, (List.append_nil _).symm⟩
  | render n => exact ⟨n, _, fun _ => .rendered, (List.append_nil _).symm⟩
  | press n id =>
      rw [after, press]
      cases h.activation n id true <;> exact ⟨0, _, fun _ => .same, hsame⟩
  | click n id =>
      rw [after]
      rcases h.activation n id false with e | task
      · exact ⟨0, _, fun _ => .same, hsame⟩
      · exact hrun task
  | run position =>
      rw [after]
      rcases h.line[position]? with _ | task
      · exact ⟨0, _, fun _ => .same, hsame⟩
      · have hline := congrArg Prod.fst (run_withLine h (h.line.eraseIdx position) task)
        simp only [hline]
        exact hrun task
  | release request =>
      rw [after, release]
      cases h.held.find? (·.request == request) <;> exact ⟨0, _, fun _ => .same, hsame⟩
  | unhold => exact ⟨0, _, fun _ => .same, hsame⟩

/-- What every session starts with, and a move hands on, all sessions have behind it. -/
lemma forall_sessions_after {P : Session → Prop} {move : Move}
    (htakes : ∀ s next, move.Takes s next → P s → P next) (hmount : ∀ d, P (.mount d))
    (hsessions : ∀ s ∈ h.sessions, P s) : ∀ s ∈ (h.after move).sessions, P s := by
  obtain ⟨m, f, hf, hafter⟩ := h.sessions_after move
  rw [hafter, List.forall_mem_append]
  constructor
  · intro s hs
    obtain ⟨i, hi⟩ := List.mem_iff_getElem?.mp hs
    rw [List.getElem?_modify] at hi
    obtain ⟨before, hbefore, rfl⟩ := Option.map_eq_some_iff.mp hi
    have hmem := hsessions before (List.mem_of_getElem? hbefore)
    split
    · exact htakes before _ (hf before) hmem
    · exact hmem
  · cases move with
    | mount d => simpa [Move.mounted] using hmount d
    | _ => simp [Move.mounted]

lemma Move.Takes.document {move : Move} {s next : Session} (htakes : move.Takes s next) :
    next.document = s.document := by
  cases htakes with
  | same => rfl
  | rendered => rfl
  | changed _ hchange =>
      obtain ⟨-, rfl⟩ := Session.change_eq_ok_iff.mp hchange
      rfl
  | written => rfl

/-- A session that is there stays there, and a move makes something of it. -/
lemma exists_session_after {s : Session} (hs : h.sessions[n]? = some s) (move : Move) :
    ∃ next, (h.after move).sessions[n]? = some next ∧ move.Takes s next := by
  obtain ⟨m, f, htakes, hsessions⟩ := h.sessions_after move
  have hn : n < (h.sessions.modify m f).length := by
    rw [List.length_modify]
    exact (List.getElem?_eq_some_iff.mp hs).1
  rw [hsessions, List.getElem?_append_left hn, List.getElem?_modify, hs]
  refine ⟨_, rfl, ?_⟩
  dsimp only
  split
  · exact htakes s
  · exact .same

/-! ### Current sessions -/

/-- All sessions are current. -/
def IsCurrent (h : Host) : Prop := ∀ s ∈ h.sessions, s.Current

lemma Move.Takes.current {move : Move} {s next : Session} (htakes : move.Takes s next)
    (hmove : move.isWrite = false) (hcurrent : s.Current) : next.Current := by
  cases htakes with
  | same => exact hcurrent
  | rendered => exact hcurrent.rendered
  | changed _ hchange => exact hcurrent.change hchange
  | written hwrite =>
      subst hwrite
      cases hmove

/-- **A move keeps all sessions current**, unless it writes to a store directly. -/
theorem IsCurrent.after (hcurrent : h.IsCurrent) {move : Move} (hmove : move.isWrite = false) :
    (h.after move).IsCurrent :=
  forall_sessions_after (fun _ _ htakes => htakes.current hmove) Session.mount_current hcurrent

/-- A run of moves keeps all sessions current. -/
theorem IsCurrent.afterAll (hcurrent : h.IsCurrent) {moves : List Move}
    (hmoves : ∀ move ∈ moves, move.isWrite = false) : (h.afterAll moves).IsCurrent := by
  induction moves generalizing h with
  | nil => exact hcurrent
  | cons move rest ih =>
      rw [List.forall_mem_cons] at hmoves
      exact ih (hcurrent.after hmoves.1) hmoves.2

/-- Waiting for all activations is a run of moves. -/
lemma drain_eq_afterAll (h : Host) (n : ℕ) :
    ∃ moves, (∀ move ∈ moves, Move.isWrite move = false) ∧ h.drain n = h.afterAll moves := by
  by_cases hpending : h.pending n = 0
  · exact ⟨[.unhold], by simp [Move.isWrite], by simp [drain, hpending, Host.afterAll, Host.after]⟩
  · refine ⟨.unhold :: List.replicate h.unhold.line.length (.run 0), ?_, ?_⟩
    · simp [Move.isWrite]
    · rw [afterAll_cons, Host.after, ← settle_eq_afterAll, drain, if_neg hpending]

/-- The hosts of the runs that do not write to a store directly. -/
inductive Reached (network : List Delivery) : Host → Prop
  | start : Reached network (ofNetwork network)
  | after {h : Host} (move : Move) (hmove : move.isWrite = false) (hreached : Reached network h) :
      Reached network (h.after move)
  | drain {h : Host} (n : ℕ) (hreached : Reached network h) : Reached network (h.drain n)

lemma Reached.afterAll {network : List Delivery} {moves : List Move}
    (hmoves : ∀ move ∈ moves, move.isWrite = false) (hreached : Reached network h) :
    Reached network (h.afterAll moves) := by
  induction moves generalizing h with
  | nil => exact hreached
  | cons move rest ih =>
      rw [List.forall_mem_cons] at hmoves
      exact ih hmoves.2 (hreached.after move hmoves.1)

lemma Reached.isCurrent {network : List Delivery} (hreached : Reached network h) :
    h.IsCurrent := by
  induction hreached with
  | start => exact fun _ hs => absurd hs List.not_mem_nil
  | after move hmove _ ih => exact ih.after hmove
  | drain n _ ih =>
      obtain ⟨moves, hmoves, hdrain⟩ := drain_eq_afterAll _ n
      rw [hdrain]
      exact ih.afterAll hmoves

/-- What can be said of a host between two moves. -/
structure Orderly (h : Host) : Prop where
  current : h.IsCurrent
  /-- A change that succeeds alters the state of one input, and shows it. -/
  altered : ∀ n id v next, h.attempt (.change n id v) = .ok next →
    ∃ s s', h.sessions[n]? = some s ∧ next = h.modify n (fun _ => s') ∧ s.Altered s' id v
  /-- A move that succeeds is made. -/
  made : ∀ move next, h.attempt move = .ok next → h.after move = next
  /-- A move that fails changes nothing. -/
  unchanged : ∀ move e, h.attempt move = .error e → h.after move = h
  /-- It fails exactly if the first node with the id has another tag, or there is none. -/
  fails_iff : ∀ move, (∃ e, h.attempt move = .error e) ↔
    ∃ n id tag, move.target? = some (n, id, tag) ∧ ¬h.Shows n id tag

end Host

/-- **Sessions at any time.** In a run that does not write to a store directly, the page in each
session shows its document with the present states, and the store has the states of the inputs. A
change alters one of them, and a move that fails alters nothing. -/
theorem orderly_of_reached {network : List Delivery} {h : Host}
    (hreached : Host.Reached network h) : h.Orderly where
  current := hreached.isCurrent
  altered n id v next hattempt := by
    obtain ⟨s, s', hs, hchange, hnext⟩ :=
      Host.exists_session_of_change (Host.change_of_attempt hattempt)
    have hcurrent := hreached.isCurrent s (List.mem_of_getElem? hs)
    exact ⟨s, s', hs, hnext, hcurrent.altered hchange⟩
  made _ _ := Host.after_of_attempt
  unchanged _ _ := Host.after_of_attempt_error
  fails_iff _ := Host.exists_attempt_error_iff

/-- Two inputs and a text under one id, and a button that logs what the inputs have. -/
def twoNames : Document where
  name := .absent
  version := .absent
  config := .absent
  root := .container ⟨"form", .absent, .absent⟩ ⟨.absent, .absent, .absent⟩ (.given [
    .input ⟨"name", .absent, .absent⟩ ⟨.absent, .given "Ann", .absent⟩,
    .input ⟨"name", .absent, .absent⟩ ⟨.absent, .given "Bob", .absent⟩,
    .text ⟨"name", .absent, .absent⟩ "Name",
    .button ⟨"log", .absent, .absent⟩ "Log" (.given ⟨.log, .absent, .absent, .absent,
      .given [("name", .bound ⟨"name", "value"⟩)], .absent, .absent⟩)])
  components := .absent

/-- A visit to a document: a change, two moves that fail, a press, and the wait for its end. -/
def visited : Host :=
  let moves : List Host.Move := [.mount twoNames, .change 0 "name" (.str "Cid"),
    .change 0 "log" (.str "Dan"), .click 0 "name", .press 0 "log"]
  ((Host.ofNetwork []).afterAll moves).drain 0

theorem orderly_visited : Host.Reached [] visited ∧ visited.Orderly := by
  have hreached : Host.Reached [] visited :=
    .drain 0 (.afterAll (by simp [Host.Move.isWrite]) .start)
  exact ⟨hreached, orderly_of_reached hreached⟩

end LivePage
