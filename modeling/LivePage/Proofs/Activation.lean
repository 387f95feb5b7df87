/-
Activations of buttons, and what each of them is to request and to report. Both
are fixed at the moment of the activation, but for the reply that comes back.

* `Activation.request?`, `Activation.block`: the request of an activation, and
  its reports;
* `Activation.Yields`: what its action asks for, and `Activation.yields`: these are
  just that;
* `Host.activated?`, `Host.activations`: the activations of a run of moves;
* `Host.run_fresh`, `Host.run_answered`: what running the task of an activation
  does, before and after its request.
-/
import LivePage.Proofs.Moves
import LivePage.Proofs.Outcomes

namespace LivePage

/-- A button was activated: its session, the action of the button, and the store and the document
of the session at that moment. -/
structure Activation where
  session : ℕ
  action : Option Action
  store : Store
  document : Document

namespace Activation

def order (a : Activation) : Option Order := a.action.map Action.order

/-- The request of an activation, as its store has it. -/
def request? (a : Activation) : Option Request :=
  match a.order with
  | none => none
  | some o =>
    match o.kind with
    | .log => none
    | .apiCall => (o.request a.store a.document).toOption

/-- The reports of an activation, if `reply` is what comes back for its request. -/
def block (a : Activation) (reply : Reply) : List Report :=
  match a.order with
  | none => []
  | some o =>
    match o.kind with
    | .log =>
      match o.evaluated a.store with
      | .ok payload => [⟨.info, .obj payload⟩]
      | .error e => Order.failure e.message
    | .apiCall =>
      match o.request a.store a.document with
      | .ok _ => o.finish reply
      | .error e => Order.failure e.message

/-- The task of an activation that has not run yet. -/
def Fresh (a : Activation) (task : Task) : Prop :=
  task.session = a.session ∧ task.work = .start a.order a.store

/-- The task of an activation whose request has been replied to. -/
def Answered (a : Activation) (reply : Reply) (task : Task) : Prop :=
  task.session = a.session ∧ a.request?.isSome ∧
    ∃ o, a.order = some o ∧ task.work = .finish o reply

/-- The task that an activation makes. -/
def task (a : Activation) (pressed : Bool) : Task := ⟨a.session, pressed, .start a.order a.store⟩

variable {a : Activation} {o : Order}

lemma of_finished {reports : List Report} (ho : a.order = some o)
    (hstart : o.start a.store a.document = .finished reports) :
    a.request? = none ∧ ∀ reply, a.block reply = reports := by
  rw [Order.start] at hstart
  simp only [request?, block, ho]
  cases hkind : o.kind with
  | log =>
      rcases hpayload : o.evaluated a.store with e | payload <;> simp_all
  | apiCall =>
      rcases hrequest : o.request a.store a.document with e | request <;>
        simp_all [Except.toOption]

lemma of_waiting {request : Request} (ho : a.order = some o)
    (hstart : o.start a.store a.document = .waiting request) :
    a.request? = some request ∧ ∀ reply, a.block reply = o.finish reply := by
  rw [Order.start] at hstart
  simp only [request?, block, ho]
  cases hkind : o.kind with
  | log =>
      rcases hpayload : o.evaluated a.store with e | payload <;> simp_all
  | apiCall =>
      rcases hrequest : o.request a.store a.document with e | request <;>
        simp_all [Except.toOption]

/-- An activation with a request finishes its order when the reply is there. -/
lemma block_of_request (ho : a.order = some o) (hrequest : a.request?.isSome) (reply : Reply) :
    a.block reply = o.finish reply := by
  rcases hstart : o.start a.store a.document with reports | request
  · simp [(of_finished ho hstart).1] at hrequest
  · exact (of_waiting ho hstart).2 reply

/-- What an activation is to request and to report, as its action says, if `reply` is what comes
back for its request. A button without an action asks for nothing. -/
def Yields (a : Activation) (reply : Reply) (request : Option Request) (reports : List Report) :
    Prop :=
  match a.action with
  | none => request = none ∧ reports = []
  | some action => action.Dispatched a.store a.document (fun _ => reply) request reports

lemma run_order {action : Action} (haction : a.action = some action) (reply : Reply) :
    action.order.run a.store a.document (fun _ => reply) = (a.request?, a.block reply) := by
  have ho : a.order = some action.order := by rw [order, haction, Option.map_some]
  rw [Order.run]
  rcases hstart : action.order.start a.store a.document with reports | request
  · obtain ⟨hrequest, hblock⟩ := of_finished ho hstart
    rw [hrequest, hblock]
  · obtain ⟨hrequest, hblock⟩ := of_waiting ho hstart
    rw [hrequest, hblock]

/-- **The request and the reports of an activation** are what its action asks for, with the store
and the document as they were at its moment. -/
theorem yields (a : Activation) {reply : Reply}
    (hnamed : ∀ cause, reply = .failure cause → cause.name ≠ "") :
    a.Yields reply a.request? (a.block reply) := by
  rw [Yields]
  rcases haction : a.action with _ | action
  · simp [request?, block, order, haction]
  · have hdispatched := action.dispatched a.store a.document
      (fun (_ : Request) cause hcause => hnamed cause hcause)
    rwa [run_order haction] at hdispatched

end Activation

namespace Host

/-- The activation of a button now. -/
def snapshot? (h : Host) (n : ℕ) (id : String) : Option Activation :=
  match h.sessions[n]? with
  | none => none
  | some s =>
    match s.clicked id with
    | .ok action => some ⟨n, action, s.store, s.document⟩
    | .error _ => none

/-- The activation that a move begins, if it begins one. -/
def activated? (h : Host) : Move → Option Activation
  | .press n id | .click n id => h.snapshot? n id
  | _ => none

/-- The activations of a run of moves, in order. -/
def activations (h : Host) : List Move → List Activation
  | [] => []
  | move :: rest => (h.activated? move).toList ++ (h.after move).activations rest

/-- A button is activated just when there is something to see, and its task is of that. -/
lemma activation_cases (h : Host) (n : ℕ) (id : String) (pressed : Bool) :
    (∃ e, h.snapshot? n id = none ∧ h.activation n id pressed = .error e) ∨
      ∃ a, h.snapshot? n id = some a ∧ h.activation n id pressed = .ok (a.task pressed) := by
  rw [activation, lookup, snapshot?]
  rcases h.sessions[n]? with _ | s
  · exact .inl ⟨_, rfl, rfl⟩
  · rcases hclicked : s.clicked id with e | action
    · exact .inl ⟨e, by simp [hclicked], by simp [hclicked, Except.map]⟩
    · exact .inr ⟨⟨n, action, s.store, s.document⟩, by simp [hclicked],
        by simp [hclicked, Except.map, Activation.task, Activation.order]⟩

lemma exists_of_snapshot? {h : Host} {n : ℕ} {id : String} {a : Activation}
    (hsnapshot : h.snapshot? n id = some a) :
    ∃ s, h.sessions[a.session]? = some s ∧ s.document = a.document := by
  rw [snapshot?] at hsnapshot
  rcases hs : h.sessions[n]? with _ | s
  · simp [hs] at hsnapshot
  · rcases hclicked : s.clicked id with e | action
    · simp [hs, hclicked] at hsnapshot
    · simp only [hs, hclicked, Option.some.injEq] at hsnapshot
      subst hsnapshot
      exact ⟨s, hs, rfl⟩

lemma exists_session_of_change {h next : Host} {n : ℕ} {id : String} {v : Value}
    (hchange : h.change n id v = (.ok (), next)) :
    ∃ before s, h.sessions[n]? = some before ∧ before.change id v = (.ok (), s) ∧
      next = h.modify n (fun _ => s) := by
  rw [change] at hchange
  rcases hs : h.sessions[n]? with _ | before <;> simp only [hs] at hchange
  · cases hchange
  · rcases hs' : before.change id v with ⟨_ | ⟨⟨⟩⟩, s⟩ <;> rw [hs'] at hchange <;> cases hchange
    exact ⟨before, s, rfl, hs', rfl⟩

/-! ### Changes -/

section

variable {h : Host} {n : ℕ}

lemma modify_congr {f g : Session → Session} (hfg : ∀ s, h.sessions[n]? = some s → f s = g s) :
    h.modify n f = h.modify n g := by
  refine congrArg (fun sessions => { h with sessions := sessions }) (List.ext_getElem? fun i => ?_)
  rw [List.getElem?_modify, List.getElem?_modify]
  rcases hs : h.sessions[i]? with _ | s
  · rfl
  · by_cases hn : n = i
    · subst hn
      simp [hfg s hs]
    · simp [hn]

lemma modify_id : h.modify n id = h :=
  congrArg (fun sessions => { h with sessions := sessions }) (List.modify_id ..)

/-- A change is one of a session, which may be none. -/
lemma after_change (h : Host) (n : ℕ) (id : String) (v : Value) :
    h.after (.change n id v) = h.modify n fun s => (s.change id v).2 := by
  rw [after, change]
  rcases hs : h.sessions[n]? with _ | s
  · -- nothing is found, and nothing is changed
    exact (modify_id.symm.trans (modify_congr fun s' hs' => by simp [hs] at hs'))
  · refine modify_congr fun other hother => ?_
    cases hs.symm.trans hother
    rfl

end

/-- A session keeps its document when an input of it changes. -/
lemma document_change (s : Session) (id : String) (v : Value) :
    (s.change id v).2.document = s.document := by
  rw [Session.change]
  cases s.node id "input" <;> rfl

/-! ### Running a task -/

lemma run_network (h : Host) (task : Task) : (h.run task).1.network = h.network := by
  rcases task with ⟨n, pressed, ⟨_ | order, store⟩ | ⟨order, reply⟩⟩
  · rfl
  · simp only [run]
    split
    · rfl
    · split
      · rfl
      · simp only [send]
        split <;> rfl
  · rfl

lemma deliver_log (log reports : List Report) :
    ReportLog.sink.deliver log reports = log ++ reports := by
  induction reports generalizing log with
  | nil => simp [Sink.deliver]
  | cons report rest ih =>
      rw [Sink.deliver, List.foldl_cons, ← Sink.deliver, ih]
      simp [ReportLog.sink]

@[simp]
lemma conclude_log (h : Host) (n : ℕ) (reports : List Report) :
    (h.conclude n reports).log = h.log ++ reports :=
  deliver_log h.log reports

variable {h : Host} {a : Activation} {task : Task}

/-- A task that has not run yet either ends at once, or makes its request. Then it ends as well,
unless the reply is held back. -/
lemma run_fresh (hfresh : a.Fresh task)
    (hsession : ∃ s, h.sessions[a.session]? = some s ∧ s.document = a.document) :
    (a.request? = none ∧ ∀ reply, h.run task = (h.conclude a.session (a.block reply), .ended)) ∨
    ∃ o request delivery, a.order = some o ∧ a.request? = some request ∧
      h.network[h.sent.length]?.getD .plain = delivery ∧
      (h.run task = ({ h with sent := h.sent ++ [request] }.conclude a.session
          (a.block delivery.reply), .ended) ∨
        h.run task = ({ h with
          sent := h.sent ++ [request]
          held := h.held ++ [⟨h.sent.length, { task with work := .finish o delivery.reply }⟩] },
            .waiting)) := by
  obtain ⟨s, hs, hdocument⟩ := hsession
  obtain ⟨htask, hwork⟩ := hfresh
  rcases ho : a.order with _ | o
  · left
    simp [run, hwork, ho, htask, Activation.request?, Activation.block]
  · rw [ho] at hwork
    rcases hstart : o.start a.store a.document with reports | request
    · left
      obtain ⟨hrequest, hblock⟩ := Activation.of_finished ho hstart
      simp [run, hwork, htask, hs, hdocument, hstart, hrequest, hblock]
    · right
      obtain ⟨hrequest, hblock⟩ := Activation.of_waiting ho hstart
      refine ⟨o, request, _, rfl, hrequest, rfl, ?_⟩
      simp only [run, hwork, htask, hs, hdocument, hstart, hblock, send]
      split
      · exact .inr rfl
      · exact .inl rfl

lemma run_answered (h : Host) {reply : Reply} (hanswered : a.Answered reply task) :
    h.run task = (h.conclude a.session (a.block reply), .ended) := by
  obtain ⟨htask, hrequest, o, ho, hwork⟩ := hanswered
  rw [run, hwork, htask, Activation.block_of_request ho hrequest]

end Host

end LivePage
