/-
What an action takes from the states of components: those that its payload binds, and no others.
Two stores with the same states of these cannot be told apart by what it sends and reports, and
so it makes no difference to a click whether some other input was changed before it.

* `Order.Agree`, `Order.start_congr`: stores that are the same for an order;
* `Session.Drawn`, `Session.Alike`: sessions that differ in the state of one component;
* `Host.Alike.afterAll`: they keep doing so, whatever happens on the two hosts;
* `Host.Beside`, `Host.Beside.run`: hosts that differ in their sessions alone;
* `Host.snapshots_after_change`, `Host.click_after_change`: clicks after a change;
* `Action.Confined`, `action_confined`: what there is to say of an action.
-/
import LivePage.Proofs.Outcomes
import LivePage.Proofs.Payloads
import LivePage.Proofs.Upkeep

namespace LivePage

variable {store other : Store} {id : String}

/-! ### Orders and activations -/

namespace Order

variable {o : Order}

/-- An order binds what its payload binds. -/
def Binds (o : Order) (id : String) : Prop := ∃ payload, o.payload = .ok payload ∧ payload.Binds id

/-- Two stores have the same states of all that an order binds. -/
def Agree (o : Order) (store other : Store) : Prop :=
  ∀ id, o.Binds id → store.read id = other.read id

lemma evaluated_congr (hagree : o.Agree store other) : o.evaluated store = o.evaluated other := by
  rw [evaluated, evaluated]
  rcases hpayload : o.payload with e | payload
  · rfl
  · have hsame := Payload.evaluate_congr fun id hid => hagree id ⟨payload, hpayload, hid⟩
    simp only [hsame]

lemma request_congr (hagree : o.Agree store other) (d : Document) :
    o.request store d = o.request other d := by
  rw [request, request, evaluated_congr hagree]

lemma start_congr (hagree : o.Agree store other) (d : Document) :
    o.start store d = o.start other d := by
  rw [start, start, evaluated_congr hagree, request_congr hagree]

lemma run_congr (hagree : o.Agree store other) (d : Document) (client : Request → Reply) :
    o.run store d client = o.run other d client := by
  rw [run, run, start_congr hagree]

/-- Without a payload there is no request, and one report says why. -/
lemma run_of_not_evaluated (hpayload : ¬∃ values, o.evaluated store = .ok values) (d : Document)
    (client : Request → Reply) : ∃ message, o.run store d client = (none, failure message) := by
  rcases hevaluated : o.evaluated store with e | values
  · refine ⟨e.message, ?_⟩
    rw [run, start, request, hevaluated]
    cases o.kind <;> rfl
  · exact absurd ⟨values, hevaluated⟩ hpayload

end Order

/-- With the same states of what is bound, an activation has the same request and the same
reports. -/
lemma Activation.congr {x y : Activation} (horder : y.order = x.order)
    (hdocument : y.document = x.document)
    (hagree : ∀ o, x.order = some o → o.Agree x.store y.store) :
    y.request? = x.request? ∧ ∀ reply, y.block reply = x.block reply := by
  simp only [request?, block, horder, hdocument]
  rcases ho : x.order with _ | o
  · exact ⟨rfl, fun _ => rfl⟩
  · simp only [Order.evaluated_congr (hagree o ho), Order.request_congr (hagree o ho), implies_true,
      and_self]

namespace Action

variable {a : Action}

/-- An action binds a component if an entry of its payload does. -/
def Binds (a : Action) (id : String) : Prop := (a.payload.value?.getD []).Binds id

lemma binds_order_iff : a.order.Binds id ↔ a.Binds id := by
  rw [Binds, ← Payload.binds_widen_iff]
  constructor
  · rintro ⟨payload, hpayload, hbinds⟩
    cases hpayload
    exact hbinds
  · exact fun hbinds => ⟨_, rfl, hbinds⟩

lemma agree_order (hread : ∀ id, a.Binds id → store.read id = other.read id) :
    a.order.Agree store other :=
  fun id hid => hread id (binds_order_iff.mp hid)

lemma evaluated_order_iff {values : Members Value} : a.order.evaluated store = .ok values ↔
    evaluate store a.entries = .ok values := by
  rw [order_evaluated]
  cases evaluate store a.entries <;> simp [Except.mapError]

end Action

/-! ### Sessions -/

lemma Store.read_merge_congr {component : String} (hread : store.read component =
    other.read component) (id : String) (changes : Members Value) :
    (store.merge id changes).read component = (other.merge id changes).read component := by
  by_cases hcomponent : component = id
  · subst hcomponent
    rw [merge, merge, read_write_self, read_write_self, hread]
  · rw [merge, merge, read_write_of_ne _ _ hcomponent, read_write_of_ne _ _ hcomponent, hread]

lemma Component.element_reaction (store other : Store) (c : Component) :
    (c.element store).reaction = (c.element other).reaction := by
  cases c <;> rfl

/-- The action of what reacts to clicks with one. -/
def Reaction.action? : Option Reaction → Option Action
  | some (.click action) => action
  | _ => none

/-- What a node does: which look-ups find it, and what it reacts to. -/
def Node.conduct (n : Node) : String × Option Reaction := (n.tag, n.element.reaction)

namespace Session

/-- The page shows the document, with the present states or others. -/
def Drawn (s : Session) : Prop := ∃ store, s.page = s.document.root.render store

/-- Two sessions on one document have the same states, but for one component. -/
structure Alike (id : String) (s t : Session) : Prop where
  document : t.document = s.document
  reads : ∀ component, component ≠ id → s.store.read component = t.store.read component
  drawn_left : s.Drawn
  drawn_right : t.Drawn

variable {s t : Session} {target tag : String} {v : Value}

lemma shows_iff_conduct : s.Shows target tag ↔
    ∃ reaction, (s.page.find? target).map Node.conduct = some (tag, reaction) := by
  rw [Shows]
  rcases s.page.find? target with _ | n <;> simp [Node.conduct]

lemma clicked_eq_conduct (s : Session) (button : String) : s.clicked button =
    (((s.page.find? button).map Node.conduct).filter fun c => c.1 == "button").elim
      (.error ⟨"button", button⟩) fun c => .ok (Reaction.action? c.2) := by
  rw [clicked, node]
  rcases s.page.find? button with _ | n
  · rfl
  · by_cases htag : n.tag = "button"
    · rcases hreaction : n.element.reaction with _ | _ | action <;>
        simp [Node.conduct, Reaction.action?, Option.filter, htag, hreaction, Except.map]
    · simp [Node.conduct, Option.filter, htag, Except.map]

/-- What a page does does not depend on the states that it shows. -/
lemma Drawn.conduct_eq (hs : s.Drawn) (target : String) :
    (s.page.find? target).map Node.conduct =
      (s.document.root.nodes.find? (·.id == target)).map
        fun c => (c.kind.tag, (c.element []).reaction) := by
  obtain ⟨store, hs⟩ := hs
  have hfind := congrArg (Option.map fun e : Element => (e.tag, e.reaction))
    (Component.find?_render store s.document.root target)
  rw [Option.map_map, Option.map_map, ← hs] at hfind
  refine hfind.trans (congrFun (congrArg _ (funext fun c => ?_)) _)
  exact Prod.ext (c.element_tag store) (c.element_reaction store [])

/-- On one document, a click runs the same whatever the states are. -/
lemma Drawn.clicked_eq (hs : s.Drawn) (ht : t.Drawn) (hdocument : t.document = s.document)
    (button : String) : t.clicked button = s.clicked button := by
  rw [clicked_eq_conduct, clicked_eq_conduct, hs.conduct_eq, ht.conduct_eq, hdocument]

namespace Alike

lemma shows_iff (halike : s.Alike id t) : s.Shows target tag ↔ t.Shows target tag := by
  rw [shows_iff_conduct, shows_iff_conduct, halike.drawn_left.conduct_eq,
    halike.drawn_right.conduct_eq, halike.document]

lemma clicked_eq (halike : s.Alike id t) (button : String) : t.clicked button = s.clicked button :=
  halike.drawn_left.clicked_eq halike.drawn_right halike.document button

/-- Sessions that differ in a component that an action does not bind are the same for it. -/
lemma agree {a : Action} (halike : s.Alike id t) (hbinds : ¬a.Binds id) :
    a.order.Agree s.store t.store :=
  Action.agree_order fun component hcomponent =>
    halike.reads component fun heq => hbinds (heq ▸ hcomponent)

/-- Two sessions stay alike when their pages are drawn again, at one time or at two. -/
lemma redrawn {s' t' : Session} (halike : s.Alike id t) (hs : s' = s ∨ s' = s.rendered)
    (ht : t' = t ∨ t' = t.rendered) : s'.Alike id t' := by
  rcases hs with rfl | rfl <;> rcases ht with rfl | rfl
  · exact halike
  · exact { halike with drawn_right := ⟨_, rfl⟩ }
  · exact { halike with drawn_left := ⟨_, rfl⟩ }
  · exact { halike with drawn_left := ⟨_, rfl⟩, drawn_right := ⟨_, rfl⟩ }

lemma write (halike : s.Alike id t) (target : String) (changes : Members Value) :
    (s.write target changes).Alike id (t.write target changes) :=
  { halike with reads := fun component hcomponent =>
      Store.read_merge_congr (halike.reads component hcomponent) target changes }

/-- A change finds its input in both sessions, or in neither. -/
lemma change (halike : s.Alike id t) (target : String) (v : Value) :
    (s.change target v).2.Alike id (t.change target v).2 := by
  by_cases hshows : s.Shows target "input"
  · rw [change_of_shows hshows, change_of_shows (halike.shows_iff.mp hshows)]
    exact (halike.write target _).redrawn (.inr rfl) (.inr rfl)
  · rw [change_of_not_shows hshows,
      change_of_not_shows fun ht => hshows (halike.shows_iff.mpr ht)]
    exact halike

/-- A session is like itself after a change of that one component. -/
lemma of_change (hdrawn : s.Drawn) (id : String) (v : Value) :
    s.Alike id (s.change id v).2 := by
  by_cases hshows : s.Shows id "input"
  · rw [change_of_shows hshows]
    exact {
      document := rfl
      reads := fun component hcomponent => (Store.read_write_of_ne _ _ hcomponent).symm
      drawn_left := hdrawn
      drawn_right := ⟨_, rfl⟩ }
  · rw [change_of_not_shows hshows]
    exact ⟨rfl, fun _ _ => rfl, hdrawn, hdrawn⟩

end Alike

end Session

/-! ### Hosts with sessions that are alike -/

namespace Host

variable {h g : Host} {n m : ℕ}

/-- Whether a move may change a store. -/
def Move.isEdit : Move → Bool
  | .change .. | .write .. => true
  | _ => false

lemma Move.Takes.redrawn {move : Move} {s next : Session} (htakes : move.Takes s next)
    (hmove : move.isEdit = false) : next = s ∨ next = s.rendered := by
  cases htakes with
  | same => exact .inl rfl
  | rendered => exact .inr rfl
  | changed hchange => simp [hchange, Move.isEdit] at hmove
  | written hwrite => simp [hwrite, Move.isEdit] at hmove

/-- On two hosts, the sessions with one number are alike. -/
def Alike (n : ℕ) (id : String) (h g : Host) : Prop :=
  ∃ s t, h.sessions[n]? = some s ∧ g.sessions[n]? = some t ∧ s.Alike id t

namespace Alike

lemma modify (halike : h.Alike n id g) {f : Session → Session}
    (hf : ∀ s t, s.Alike id t → (f s).Alike id (f t)) (m : ℕ) :
    (h.modify m f).Alike n id (g.modify m f) := by
  obtain ⟨s, t, hs, ht, hst⟩ := halike
  simp only [Alike, Host.modify, List.getElem?_modify, hs, ht]
  refine ⟨_, _, rfl, rfl, ?_⟩
  dsimp only
  split
  · exact hf s t hst
  · exact hst

/-- **A move keeps sessions alike**, wherever the two hosts are otherwise. -/
lemma after (halike : h.Alike n id g) (move : Move) : (h.after move).Alike n id (g.after move) := by
  by_cases hmove : move.isEdit = true
  · cases move with
    | change m target v =>
        rw [after_change, after_change]
        exact halike.modify (fun s t hst => hst.change target v) m
    | write m target changes => exact halike.modify (fun s t hst => hst.write target changes) m
    | _ => cases hmove
  · rw [Bool.not_eq_true] at hmove
    obtain ⟨s, t, hs, ht, hst⟩ := halike
    obtain ⟨s', hs', hstakes⟩ := exists_session_after hs move
    obtain ⟨t', ht', httakes⟩ := exists_session_after ht move
    exact ⟨s', t', hs', ht', hst.redrawn (hstakes.redrawn hmove) (httakes.redrawn hmove)⟩

lemma afterAll (halike : h.Alike n id g) (moves : List Move) :
    (h.afterAll moves).Alike n id (g.afterAll moves) := by
  induction moves generalizing h g with
  | nil => exact halike
  | cons move rest ih => exact ih (halike.after move)

end Alike

/-- All pages show their documents. -/
def IsDrawn (h : Host) : Prop := ∀ s ∈ h.sessions, s.Drawn

lemma Move.Takes.drawn {move : Move} {s next : Session} (htakes : move.Takes s next)
    (hdrawn : s.Drawn) : next.Drawn := by
  cases htakes with
  | same => exact hdrawn
  | rendered => exact ⟨_, rfl⟩
  | changed _ hchange =>
      obtain ⟨-, rfl⟩ := Session.change_eq_ok_iff.mp hchange
      exact ⟨_, rfl⟩
  | written => exact hdrawn

lemma IsDrawn.afterAll (hdrawn : h.IsDrawn) (moves : List Move) : (h.afterAll moves).IsDrawn := by
  induction moves generalizing h with
  | nil => exact hdrawn
  | cons move rest ih =>
      exact ih (forall_sessions_after (fun _ _ htakes => htakes.drawn) (fun _ => ⟨_, rfl⟩) hdrawn)

lemma isDrawn_afterAll (network : List Delivery) (moves : List Move) :
    ((ofNetwork network).afterAll moves).IsDrawn :=
  IsDrawn.afterAll (fun _ hs => absurd hs List.not_mem_nil) moves

lemma alike_refl {s : Session} (hs : h.sessions[n]? = some s) (hdrawn : s.Drawn) (id : String) :
    h.Alike n id h :=
  ⟨s, s, hs, hs, rfl, fun _ _ => rfl, hdrawn, hdrawn⟩

/-- Sessions are alike before and after a change of that one component. -/
lemma alike_of_change {s : Session} (hs : h.sessions[n]? = some s) (hdrawn : s.Drawn)
    (id : String) (v : Value) : h.Alike n id (h.after (.change n id v)) := by
  refine ⟨s, (s.change id v).2, hs, ?_, .of_change hdrawn id v⟩
  rw [after_change, modify, List.getElem?_modify, hs]
  simp

/-- There is nothing to change in a session that does not exist. -/
lemma after_change_of_none (hnone : h.sessions[n]? = none) (id : String) (v : Value) :
    h.after (.change n id v) = h := by
  rw [after_change]
  exact (modify_congr fun s hs => by simp [hnone] at hs).trans modify_id

/-! ### Clicks -/

/-- A click on a button of a session runs an action. -/
def Offers (h : Host) (n : ℕ) (button : String) (a : Action) : Prop :=
  ∃ s, h.sessions[n]? = some s ∧ s.clicked button = .ok (some a)

variable {a : Action} {button : String}

/-- A host with other sessions. -/
def withSessions (h : Host) (sessions : List Session) : Host := { h with sessions := sessions }

/-- Two hosts are the same but for their sessions, which show the same documents. -/
def Beside (h g : Host) : Prop :=
  ∃ sessions, g = h.withSessions sessions ∧
    sessions.map Session.document = h.sessions.map Session.document

lemma map_document_modify {f : Session → Session} (hf : ∀ s, (f s).document = s.document) (m : ℕ)
    (sessions : List Session) :
    (sessions.modify m f).map Session.document = sessions.map Session.document := by
  refine List.ext_getElem? fun i => ?_
  rw [List.getElem?_map, List.getElem?_map, List.getElem?_modify]
  rcases sessions[i]? with _ | s
  · rfl
  · by_cases hm : m = i <;> simp [hm, hf]

namespace Beside

lemma of_modify (h : Host) {f : Session → Session} (hf : ∀ s, (f s).document = s.document)
    (m : ℕ) : h.Beside (h.modify m f) :=
  ⟨h.sessions.modify m f, rfl, map_document_modify hf m h.sessions⟩

lemma modify (hbeside : h.Beside g) {f : Session → Session}
    (hf : ∀ s, (f s).document = s.document) (m : ℕ) : (h.modify m f).Beside (g.modify m f) := by
  obtain ⟨sessions, rfl, hdocuments⟩ := hbeside
  refine ⟨sessions.modify m f, rfl, ?_⟩
  calc
    (sessions.modify m f).map Session.document = sessions.map Session.document :=
      map_document_modify hf m sessions
    _ = h.sessions.map Session.document := hdocuments
    _ = (h.sessions.modify m f).map Session.document := (map_document_modify hf m _).symm

lemma conclude (hbeside : h.Beside g) (m : ℕ) (reports : List Report) :
    (h.conclude m reports).Beside (g.conclude m reports) := by
  obtain ⟨sessions, rfl, hdocuments⟩ := hbeside
  have hlogged : { h with log := ReportLog.sink.deliver h.log reports }.Beside
      { h.withSessions sessions with log := ReportLog.sink.deliver h.log reports } :=
    ⟨sessions, rfl, hdocuments⟩
  exact hlogged.modify (f := Session.rendered) (fun _ => rfl) m

lemma getElem?_document (hbeside : h.Beside g) (m : ℕ) :
    g.sessions[m]?.map Session.document = h.sessions[m]?.map Session.document := by
  obtain ⟨sessions, rfl, hdocuments⟩ := hbeside
  rw [← List.getElem?_map, ← List.getElem?_map, ← hdocuments]
  rfl

lemma send (hbeside : h.Beside g) (task other : Task) (hsession : other.session = task.session)
    (hpressed : other.pressed = task.pressed) (order : Order) (request : Request) :
    (h.send task order request).1.Beside (g.send other order request).1 ∧
      (g.send other order request).2 = (h.send task order request).2 := by
  obtain ⟨sessions, rfl, hdocuments⟩ := hbeside
  simp only [Host.send, withSessions, hsession, hpressed]
  split
  · exact ⟨⟨sessions, rfl, hdocuments⟩, rfl⟩
  · have hsent : { h with sent := h.sent ++ [request] }.Beside
        { h.withSessions sessions with sent := h.sent ++ [request] } := ⟨sessions, rfl, hdocuments⟩
    exact ⟨hsent.conclude _ _, rfl⟩

/-- Two tasks that start one order in the same way do the same on two hosts. -/
lemma run_start (hbeside : h.Beside g) (m : ℕ) (pressed : Bool) {order : Option Order}
    (hstart : ∀ o, order = some o → ∀ d, o.start store d = o.start other d) :
    (h.run ⟨m, pressed, .start order store⟩).1.Beside (g.run ⟨m, pressed, .start order other⟩).1 ∧
      (g.run ⟨m, pressed, .start order other⟩).2 = (h.run ⟨m, pressed, .start order store⟩).2 := by
  rcases order with _ | o
  · exact ⟨hbeside.conclude m [], rfl⟩
  · have hdocument := hbeside.getElem?_document m
    simp only [run]
    rcases hs : h.sessions[m]? with _ | s <;> rcases ht : g.sessions[m]? with _ | t <;>
      simp only [hs, ht, Option.map_none, Option.map_some, reduceCtorEq, Option.some.injEq]
        at hdocument
    · exact ⟨hbeside, rfl⟩
    · simp only [hdocument, ← hstart o rfl]
      rcases o.start store s.document with reports | request
      · exact ⟨hbeside.conclude m reports, rfl⟩
      · exact hbeside.send _ _ rfl rfl o request

lemma run (hbeside : h.Beside g) (task : Task) :
    (h.run task).1.Beside (g.run task).1 ∧ (g.run task).2 = (h.run task).2 := by
  rcases task with ⟨m, pressed, ⟨order, store⟩ | ⟨order, reply⟩⟩
  · exact hbeside.run_start m pressed fun _ _ _ => rfl
  · exact ⟨hbeside.conclude m _, rfl⟩

lemma settle (hbeside : h.Beside g) : h.settle.Beside g.settle := by
  obtain ⟨sessions, rfl, hdocuments⟩ := hbeside
  have hline : (h.withLine []).Beside ((h.withSessions sessions).withLine []) :=
    ⟨sessions, rfl, hdocuments⟩
  change (h.line.foldl _ (h.withLine [])).Beside
    (h.line.foldl _ ((h.withSessions sessions).withLine []))
  generalize h.withLine [] = h', (h.withSessions sessions).withLine [] = g', h.line = line
    at hline ⊢
  induction line generalizing h' g' with
  | nil => exact hline
  | cons task rest ih => exact ih _ _ (hline.run task).1

end Beside

/-- What a click runs stays the same. -/
lemma Offers.afterAll (hoffers : h.Offers n button a) (hdrawn : h.IsDrawn) (moves : List Move) :
    (h.afterAll moves).Offers n button a := by
  induction moves generalizing h with
  | nil => exact hoffers
  | cons move rest ih =>
      obtain ⟨s, hs, hclicked⟩ := hoffers
      obtain ⟨next, hnext, htakes⟩ := exists_session_after hs move
      have hdrawn' := hdrawn.afterAll [move]
      refine ih ⟨next, hnext, ?_⟩ hdrawn'
      rw [← hclicked]
      exact (hdrawn s (List.mem_of_getElem? hs)).clicked_eq
        (hdrawn' next (List.mem_of_getElem? hnext)) htakes.document button

/-- A click is the same activation on both hosts, for all that it sends and reports. -/
lemma Alike.snapshots (halike : h.Alike n id g) (hbinds : ¬a.Binds id)
    (hoffers : h.Offers n button a) :
    ∃ x y, h.snapshot? n button = some x ∧ g.snapshot? n button = some y ∧
      x.order = some a.order ∧ y.order = some a.order ∧
        y.request? = x.request? ∧ ∀ reply, y.block reply = x.block reply := by
  obtain ⟨s, t, hs, ht, hst⟩ := halike
  obtain ⟨s', hs', hclicked⟩ := hoffers
  cases hs.symm.trans hs'
  refine ⟨⟨n, some a, s.store, s.document⟩, ⟨n, some a, t.store, t.document⟩, ?_, ?_,
    rfl, rfl, Activation.congr rfl hst.document fun o ho => ?_⟩
  · simp [snapshot?, hs, hclicked]
  · simp [snapshot?, ht, hst.clicked_eq, hclicked]
  · cases ho
    exact hst.agree hbinds

/-- **A click at some time after a change** of a component that its action does not bind is to send
and to report the same as without the change. -/
lemma snapshots_after_change (hdrawn : h.IsDrawn) (hbinds : ¬a.Binds id) (v : Value)
    (later : List Move) (hoffers : (h.afterAll later).Offers n button a) :
    ∃ x y, (h.afterAll later).snapshot? n button = some x ∧
      ((h.after (.change n id v)).afterAll later).snapshot? n button = some y ∧
        x.order = some a.order ∧ y.order = some a.order ∧
          y.request? = x.request? ∧ ∀ reply, y.block reply = x.block reply := by
  refine Alike.snapshots ?_ hbinds hoffers
  rcases hs : h.sessions[n]? with _ | s
  · -- the session is not there yet when the change is made
    obtain ⟨s, hs', -⟩ := hoffers
    rw [after_change_of_none hs]
    exact alike_refl hs' (hdrawn.afterAll later s (List.mem_of_getElem? hs')) id
  · exact (alike_of_change hs (hdrawn s (List.mem_of_getElem? hs)) id v).afterAll later

/-- A click runs its task when the tasks in line have run. -/
lemma click_eq_run {s : Session} (hs : h.settle.sessions[n]? = some s)
    (hclicked : s.clicked button = .ok (some a)) :
    h.click n button = (.ok (h.settle.run ⟨n, false, .start (some a.order) s.store⟩).2,
      (h.settle.run ⟨n, false, .start (some a.order) s.store⟩).1) := by
  simp [click, activation, lookup, hs, hclicked, Except.map]

/-- **A click right after a change** of a component that its action does not bind does the same as
without the change, on all of the host but the sessions. -/
lemma click_after_change (hdrawn : h.IsDrawn) (hbinds : ¬a.Binds id)
    (hoffers : h.Offers n button a) (v : Value) :
    ∃ next progress sessions, h.click n button = (.ok progress, next) ∧
      (h.after (.change n id v)).click n button = (.ok progress, next.withSessions sessions) := by
  have hbeside : h.Beside (h.after (.change n id v)) := by
    rw [after_change]
    exact .of_modify h (fun s => document_change s id v) n
  have hline : (h.after (.change n id v)).line = h.line := by
    rw [after_change]
    rfl
  have halike : h.settle.Alike n id (h.after (.change n id v)).settle := by
    obtain ⟨s, hs, -⟩ := hoffers
    rw [settle_eq_afterAll, settle_eq_afterAll, hline]
    exact (alike_of_change hs (hdrawn s (List.mem_of_getElem? hs)) id v).afterAll _
  have hsettled : h.settle.Offers n button a := by
    rw [settle_eq_afterAll]
    exact hoffers.afterAll hdrawn _
  obtain ⟨s, t, hs, ht, hst⟩ := halike
  obtain ⟨s', hs', hclicked⟩ := hsettled
  cases hs.symm.trans hs'
  have hstart : ∀ o, some a.order = some o → ∀ d, o.start s.store d = o.start t.store d := by
    intro o ho d
    cases ho
    exact Order.start_congr (hst.agree hbinds) d
  -- the tasks in line do the same on both hosts, and so does the task of the click
  obtain ⟨⟨sessions, hnext, -⟩, hprogress⟩ := hbeside.settle.run_start n false hstart
  refine ⟨_, _, sessions, click_eq_run hs hclicked, ?_⟩
  rw [click_eq_run ht ((hst.clicked_eq button).trans hclicked)]
  exact Prod.ext (congrArg Except.ok hprogress) hnext

end Host

/-! ### Actions -/

/-- What there is to say of what an action takes from the states of components. -/
structure Action.Confined (a : Action) : Prop where
  /-- With two stores that have the same states of all that it binds, it makes the same request, and
  the same reports for the same reply. -/
  run_eq : ∀ (d : Document) (store other : Store),
    (∀ id, a.Binds id → store.read id = other.read id) →
      ∀ client, a.order.run store d client = a.order.run other d client
  /-- Wherever the reports go, they come to the same there. -/
  dispatch_eq : ∀ (d : Document) (store other : Store),
    (∀ id, a.Binds id → store.read id = other.read id) →
      ∀ (σ : Type) (client : Request → Reply) (sink : Sink σ) (state : σ),
        a.order.dispatch store d client sink state = a.order.dispatch other d client sink state
  /-- When an input is changed that it does not bind, a click on its button is to send and to report
  the same as without the change, whatever happens between the change and the click. -/
  activation_eq : ∀ (network : List Delivery) (moves later : List Host.Move) (n : ℕ) (id : String)
    (v : Value) (button : String), ¬a.Binds id →
      let h := (Host.ofNetwork network).afterAll moves
      (h.afterAll later).Offers n button a →
        ∃ x y, (h.afterAll later).snapshot? n button = some x ∧
          ((h.after (.change n id v)).afterAll later).snapshot? n button = some y ∧
            x.order = some a.order ∧ y.order = some a.order ∧
              y.request? = x.request? ∧ ∀ reply, y.block reply = x.block reply
  /-- A click right after the change leaves the host as without the change, with its requests, its
  log and all that is in line or held back, but for the sessions. -/
  click_eq : ∀ (network : List Delivery) (moves : List Host.Move) (n : ℕ) (id : String) (v : Value)
    (button : String), ¬a.Binds id →
      let h := (Host.ofNetwork network).afterAll moves
      h.Offers n button a →
        ∃ next progress sessions, h.click n button = (.ok progress, next) ∧
          (h.after (.change n id v)).click n button = (.ok progress, next.withSessions sessions)
  /-- Its payload is evaluated exactly if all bindings have answers. -/
  evaluated_iff : ∀ store, (∃ values, a.order.evaluated store = .ok values) ↔
    a.entries.Answered store
  /-- What is evaluated has the names of the payload in their order, without those whose bindings
  reach nothing. -/
  keys_eq : ∀ store values, a.order.evaluated store = .ok values →
    values.keys = Members.keys (a.entries.filter fun m => m.2.Present store)
  /-- Under each name stands what its entry gives, null as well. -/
  mem_iff : ∀ store values, a.order.evaluated store = .ok values → ∀ key v,
    (key, v) ∈ values ↔ ∃ entry, (key, entry) ∈ a.entries ∧ entry.Gives store v
  /-- When a binding has no answer, there is no request, and one report says so. -/
  unanswered : ∀ store, ¬a.entries.Answered store → ∀ d client,
    ∃ message, a.order.run store d client = (none, Order.failure message)

/-- **What an action sees.** It sees the states that its payload binds, and nothing else of a
store; what it takes from them are the values that its bindings reach. -/
theorem action_confined (a : Action) : a.Confined where
  run_eq d _ _ hread client := Order.run_congr (Action.agree_order hread) d client
  dispatch_eq d _ _ hread _ client _ _ := by
    rw [Order.dispatch, Order.dispatch, Order.run_congr (Action.agree_order hread) d client]
  activation_eq network moves later n id v button hbinds :=
    Host.snapshots_after_change (Host.isDrawn_afterAll network moves) hbinds v later
  click_eq network moves n id v button hbinds hoffers :=
    Host.click_after_change (Host.isDrawn_afterAll network moves) hbinds hoffers v
  evaluated_iff store := by
    simp only [Action.evaluated_order_iff]
    exact Payload.exists_evaluate_iff
  keys_eq store values hevaluated := by
    rw [Action.evaluated_order_iff, Payload.evaluate_eq_ok_iff] at hevaluated
    exact hevaluated.2.keys_eq
  mem_iff store values hevaluated key v := by
    rw [Action.evaluated_order_iff, Payload.evaluate_eq_ok_iff] at hevaluated
    exact hevaluated.2.mem_iff
  unanswered store hanswered d client := by
    refine Order.run_of_not_evaluated (fun hevaluated => hanswered ?_) d client
    simp only [Action.evaluated_order_iff] at hevaluated
    exact Payload.exists_evaluate_iff.mp hevaluated

/-- It logs the value of one input, and a part of it that is not there. -/
def logName : Action :=
  ⟨.log, .absent, .absent, .absent,
    .given [("name", .bound ⟨"name", "value"⟩), ("none", .bound ⟨"name", "value.first"⟩)],
    .absent, .absent⟩

/-- Two inputs, and a button that logs the value of the first one. -/
def oneBound : Document where
  name := .absent
  version := .absent
  config := .absent
  root := .container ⟨"form", .absent, .absent⟩ ⟨.absent, .absent, .absent⟩ (.given [
    .input ⟨"name", .absent, .absent⟩ ⟨.absent, .given "Ann", .absent⟩,
    .input ⟨"note", .absent, .absent⟩ ⟨.absent, .absent, .absent⟩,
    .button ⟨"log", .absent, .absent⟩ "Log" (.given logName)])
  components := .absent

/-- The other input is changed before the click, and the name is logged all the same. -/
theorem action_confined_oneBound :
    let h := (Host.ofNetwork []).afterAll [.mount oneBound]
    ¬logName.Binds "note" ∧ h.Offers 0 "log" logName ∧
      ∃ next progress sessions, h.click 0 "log" = (.ok progress, next) ∧
        (h.after (.change 0 "note" (.str "Bob"))).click 0 "log" =
          (.ok progress, next.withSessions sessions) ∧
        next.log = [⟨.info, .obj [("name", .str "Ann")]⟩] := by
  intro h
  have hbinds : ¬logName.Binds "note" := by
    simp [Action.Binds, Payload.Binds, logName, Field.value?]
  have hoffers : h.Offers 0 "log" logName := ⟨Session.mount oneBound, rfl, rfl⟩
  obtain ⟨next, progress, sessions, hclick, hchanged⟩ :=
    (action_confined logName).click_eq [] [.mount oneBound] 0 "note" (.str "Bob") "log"
      hbinds hoffers
  refine ⟨hbinds, hoffers, next, progress, sessions, hclick, hchanged, ?_⟩
  cases hclick
  rfl

end LivePage
