/-
Edits, and documents that declare what the edits give. A session after some edits
is one on such a document, and whatever happens next happens in the same way.

* `Session.edit`: a session after some edits, all of which succeed;
* `Session.redeclared_of_edit`: it is the session that the redeclared document
  starts with, but for its document;
* `Host.after_redeclared`, `Host.afterAll_redeclared`: moves go on the same way
  with one document or the other;
* `edits_as_declared`: sessions and their runs.
-/
import LivePage.Page.Html
import LivePage.Proofs.Redeclaration
import LivePage.Proofs.Upkeep

namespace LivePage

variable {edits : List (String × String)}

namespace Session

variable {s : Session} {d : Document} {id : String}

/-- The session after one edit. -/
def edited (s : Session) (id text : String) : Except LookupError Session :=
  (s.change id (.str text)).1.map fun _ => (s.change id (.str text)).2

/-- The session after some edits, one after the other. -/
def edit (s : Session) (edits : List (String × String)) : Except LookupError Session :=
  edits.foldlM (fun s edit => s.edited edit.1 edit.2) s

/-- The session with other values declared in its document. -/
def redeclared (edits : List (String × String)) (s : Session) : Session :=
  { s with document := s.document.redeclared edits }

lemma edit_concat (text : String) :
    s.edit (edits ++ [(id, text)]) =
      (s.edit edits).bind fun next => next.edited id text := by
  rw [edit, List.foldlM_append]
  change (s.edit edits).bind _ = _
  rcases s.edit edits with e | next
  · rfl
  · exact bind_pure (next.edited id text)

lemma change_of_edited {next : Session} {text : String} (hedited : s.edited id text = .ok next) :
    s.change id (.str text) = (.ok (), next) := by
  rw [edited] at hedited
  rcases hchange : s.change id (.str text) with ⟨_ | ⟨⟨⟩⟩, other⟩ <;> rw [hchange] at hedited <;>
    cases hedited
  rfl

/-- What is declared in a document does not show in a session whose inputs have states. -/
lemma rendered_redeclared (hcovers : s.store.Covers s.document.root) :
    (s.redeclared edits).rendered = s.rendered.redeclared edits := by
  have hpage : (s.document.root.redeclared edits).render s.store = s.document.root.render s.store :=
    Component.render_redeclared hcovers
  simp only [rendered, redeclared, Document.redeclared, hpage]

/-- The state of an input after some edits is the one that it starts with if it declares what it
is given last. -/
lemma store_of_edit (hedit : (mount d).edit edits = .ok s) :
    s.document = d ∧ s.Current ∧ s.store = Store.ofDocument (d.redeclared edits) := by
  induction edits using List.reverseRecOn generalizing s with
  | nil =>
      obtain rfl : mount d = s := Except.ok.inj hedit
      exact ⟨rfl, mount_current d, (Store.ofDocument_redeclared_nil d).symm⟩
  | append_singleton edits last ih =>
      obtain ⟨id, text⟩ := last
      rw [edit_concat] at hedit
      rcases hbefore : (mount d).edit edits with e | before <;> rw [hbefore] at hedit
      · cases hedit
      · obtain ⟨rfl, hcurrent, hstore⟩ := ih hbefore
        have hedit := change_of_edited hedit
        obtain ⟨hid, hwrite⟩ := hcurrent.store_change hedit
        rw [hcurrent.mem_keys_iff] at hid
        refine ⟨(hcurrent.altered hedit).document, hcurrent.change hedit, ?_⟩
        rw [hwrite, hstore, Store.ofDocument_redeclared _ hid]

lemma covers_of_edit (hedit : (mount d).edit edits = .ok s) :
    s.store.Covers s.document.root := by
  obtain ⟨rfl, -, hstore⟩ := store_of_edit hedit
  have hcovers := Store.covers_ofDocument (s.document.redeclared edits)
  rw [← hstore] at hcovers
  exact hcovers.of_redeclared

/-- **Edits as declarations.** A session after some edits is the one that the document starts
with that declares what they give, but for its document. -/
theorem redeclared_of_edit (hedit : (mount d).edit edits = .ok s) :
    s.redeclared edits = mount (d.redeclared edits) := by
  obtain ⟨rfl, hcurrent, hstore⟩ := store_of_edit hedit
  have hpage : s.page = (s.document.redeclared edits).root.render s.store :=
    hcurrent.page.trans (Component.render_redeclared (covers_of_edit hedit)).symm
  rw [redeclared, mount, hpage, hstore]

/-! ### One session with two documents -/

/-- Inputs that have states keep them when they are given texts. -/
lemma covers_of_change {next : Session} {text : String} (hcovers : s.store.Covers s.document.root)
    (hchange : s.change id (.str text) = (.ok (), next)) :
    next.store.Covers next.document.root := by
  obtain ⟨-, rfl⟩ := change_eq_ok_iff.mp hchange
  exact hcovers.merge text

lemma change_redeclared (hcovers : s.store.Covers s.document.root) (text : String) :
    (s.redeclared edits).change id (.str text) =
      ((s.change id (.str text)).1, (s.change id (.str text)).2.redeclared edits) := by
  have hnode : (s.redeclared edits).node id "input" = s.node id "input" := rfl
  rw [change, change, hnode]
  rcases s.node id "input" with e | n
  · rfl
  · refine congrArg (Prod.mk (Except.ok ())) ?_
    exact rendered_redeclared (s := s.write n.id (valueChange (.str text))) (hcovers.merge text)

end Session

namespace Host

variable {h : Host} {n : ℕ}

/-- The host with other values declared in the document of a session. -/
def redeclared (n : ℕ) (edits : List (String × String)) (h : Host) : Host :=
  h.modify n (Session.redeclared edits)

/-- The inputs of a session all have states. -/
def Covers (h : Host) (n : ℕ) : Prop :=
  ∃ s, h.sessions[n]? = some s ∧ s.store.Covers s.document.root

/-- Whether a move gives inputs nothing but texts, and writes to no store directly. -/
def Move.givesTexts : Move → Bool
  | .change _ _ v => v.str?.isSome
  | .write .. => false
  | _ => true

lemma modify_append {α : Type} {l : List α} (hn : n < l.length) (f : α → α) (more : List α) :
    (l ++ more).modify n f = l.modify n f ++ more := by
  refine List.ext_getElem? fun i => ?_
  rw [List.getElem?_modify, List.getElem?_append, List.getElem?_append, List.length_modify]
  by_cases hi : i < l.length
  · rw [if_pos hi, if_pos hi, List.getElem?_modify]
  · simp [hi, show n ≠ i by omega]

lemma exists_text {m : ℕ} {id : String} {v : Value}
    (hmove : (Move.change m id v).givesTexts) : ∃ text, v = .str text := by
  cases v <;> simp_all [Move.givesTexts, Value.str?]

/-! ### One move with two documents -/

@[simp] lemma redeclared_network : (h.redeclared n edits).network = h.network := rfl

@[simp] lemma redeclared_holding : (h.redeclared n edits).holding = h.holding := rfl

@[simp] lemma redeclared_line : (h.redeclared n edits).line = h.line := rfl

@[simp] lemma redeclared_held : (h.redeclared n edits).held = h.held := rfl

@[simp] lemma redeclared_sent : (h.redeclared n edits).sent = h.sent := rfl

@[simp] lemma redeclared_log : (h.redeclared n edits).log = h.log := rfl

lemma getElem?_redeclared (m : ℕ) :
    (h.redeclared n edits).sessions[m]? =
      h.sessions[m]?.map fun s => if n = m then s.redeclared edits else s :=
  List.getElem?_modify ..

lemma modify_redeclared {f : Session → Session} {m : ℕ}
    (hf : ∀ s, h.sessions[n]? = some s → f (s.redeclared edits) = (f s).redeclared edits) :
    (h.redeclared n edits).modify m f = (h.modify m f).redeclared n edits := by
  by_cases hm : m = n
  · subst hm
    have hcomp (f g : Session → Session) : (h.modify m f).modify m g = h.modify m (g ∘ f) :=
      congrArg (fun sessions => { h with sessions := sessions }) (List.modify_modify_eq ..)
    rw [redeclared, redeclared, hcomp, hcomp]
    exact modify_congr hf
  · exact congrArg (fun sessions => { h with sessions := sessions })
      (List.modify_modify_ne _ _ _ fun heq => hm heq.symm)

lemma rendered_redeclared (hcovers : h.Covers n) (m : ℕ) :
    (h.redeclared n edits).modify m Session.rendered =
      (h.modify m Session.rendered).redeclared n edits := by
  obtain ⟨s, hs, hcovers⟩ := hcovers
  refine modify_redeclared fun other hother => ?_
  cases hs.symm.trans hother
  exact Session.rendered_redeclared hcovers

lemma conclude_redeclared (hcovers : h.Covers n) (m : ℕ) (reports : List Report) :
    (h.redeclared n edits).conclude m reports = (h.conclude m reports).redeclared n edits :=
  rendered_redeclared (h := { h with log := ReportLog.sink.deliver h.log reports }) hcovers m

lemma send_redeclared (hcovers : h.Covers n) (task : Task) (order : Order) (request : Request) :
    (h.redeclared n edits).send task order request =
      ((h.send task order request).1.redeclared n edits, (h.send task order request).2) := by
  by_cases hwaits : ((h.network[h.sent.length]?.getD .plain).held && h.holding) = true
  · simp only [send, redeclared_network, redeclared_holding, redeclared_sent, hwaits]
    rfl
  · simp only [send, redeclared_network, redeclared_holding, redeclared_sent, hwaits]
    exact congrArg (·, Progress.ended)
      (conclude_redeclared (h := { h with sent := h.sent ++ [request] }) hcovers _ _)

/-- A task runs in the same way with one document or the other. -/
lemma run_redeclared (hcovers : h.Covers n) (task : Task) :
    (h.redeclared n edits).run task = ((h.run task).1.redeclared n edits, (h.run task).2) := by
  have hconclude (reports : List Report) : (h.redeclared n edits).conclude task.session reports =
      (h.conclude task.session reports).redeclared n edits :=
    conclude_redeclared hcovers task.session reports
  rcases task with ⟨m, pressed, ⟨_ | order, store⟩ | ⟨order, reply⟩⟩
  · exact congrArg (·, Progress.ended) (hconclude [])
  · simp only [run, getElem?_redeclared]
    rcases h.sessions[m]? with _ | s
    · rfl
    · -- an order reads nothing of a document but its endpoints
      have hstart : order.start store (if n = m then s.redeclared edits else s).document =
          order.start store s.document := by split <;> rfl
      simp only [Option.map_some, hstart]
      rcases order.start store s.document with reports | request
      · exact congrArg (·, Progress.ended) (hconclude reports)
      · exact send_redeclared hcovers _ order request
  · exact congrArg (·, Progress.ended) (hconclude _)

lemma activation_redeclared (m : ℕ) (id : String) (pressed : Bool) :
    (h.redeclared n edits).activation m id pressed = h.activation m id pressed := by
  simp only [activation, lookup, getElem?_redeclared]
  rcases h.sessions[m]? with _ | s
  · rfl
  · simp only [Option.map_some]
    split <;> rfl

/-- **A move does the same with one document or the other.** -/
theorem after_redeclared (hcovers : h.Covers n) {move : Move} (hmove : move.givesTexts) :
    (h.redeclared n edits).after move = (h.after move).redeclared n edits := by
  cases move with
  | mount d =>
      obtain ⟨s, hs, -⟩ := hcovers
      have hn : n < h.sessions.length := (List.getElem?_eq_some_iff.mp hs).1
      exact congrArg (fun sessions => { h with sessions := sessions })
        (modify_append hn _ [Session.mount d]).symm
  | change m id v =>
      obtain ⟨text, rfl⟩ := exists_text hmove
      obtain ⟨s, hs, hcovers⟩ := hcovers
      rw [after_change, after_change]
      refine modify_redeclared fun other hother => ?_
      cases hs.symm.trans hother
      rw [Session.change_redeclared hcovers]
  | write m id changes => cases hmove
  | render m => exact rendered_redeclared hcovers m
  | press m id =>
      rw [after, after, press, press, activation_redeclared]
      cases h.activation m id true <;> rfl
  | click m id =>
      rw [after, after, activation_redeclared]
      rcases h.activation m id false with e | task
      · rfl
      · exact congrArg Prod.fst (run_redeclared hcovers task)
  | run position =>
      simp only [after, redeclared_line]
      rcases h.line[position]? with _ | task
      · rfl
      · exact congrArg Prod.fst
          (run_redeclared (h := h.withLine (h.line.eraseIdx position)) hcovers task)
  | release request =>
      simp only [after, release, redeclared_held, redeclared_line]
      cases h.held.find? (·.request == request) <;> rfl
  | unhold => rfl

/-! ### Runs with two documents -/

lemma Move.Takes.covers {move : Move} {s next : Session} (htakes : move.Takes s next)
    (hmove : move.givesTexts) (hcovers : s.store.Covers s.document.root) :
    next.store.Covers next.document.root := by
  cases htakes with
  | same => exact hcovers
  | rendered => exact hcovers
  | changed hchange' hchange =>
      subst hchange'
      obtain ⟨text, rfl⟩ := exists_text hmove
      exact Session.covers_of_change hcovers hchange
  | written hwrite =>
      subst hwrite
      cases hmove

/-- The inputs of a session keep having states. -/
lemma Covers.after (hcovers : h.Covers n) {move : Move} (hmove : move.givesTexts) :
    (h.after move).Covers n := by
  obtain ⟨s, hs, hcovers⟩ := hcovers
  obtain ⟨next, hnext, htakes⟩ := exists_session_after hs move
  exact ⟨next, hnext, htakes.covers hmove hcovers⟩

/-- **A run of moves does the same with one document or the other.** -/
theorem afterAll_redeclared (hcovers : h.Covers n) {moves : List Move}
    (hmoves : ∀ move ∈ moves, move.givesTexts) :
    (h.redeclared n edits).afterAll moves = (h.afterAll moves).redeclared n edits := by
  induction moves generalizing h with
  | nil => rfl
  | cons move rest ih =>
      rw [List.forall_mem_cons] at hmoves
      rw [afterAll_cons, afterAll_cons, after_redeclared hcovers hmoves.1,
        ih (hcovers.after hmoves.1) hmoves.2]

end Host

/-- **Edits as declarations, and what follows.** The edits of a session leave it with the states
and the page that the document starts with that declares the values given last. From there on, both
documents send the same requests and log the same reports. -/
theorem edits_as_declared {d : Document} {s : Session}
    (hedit : (Session.mount d).edit edits = .ok s) :
    s.store = Store.ofDocument (d.redeclared edits) ∧
      s.page = (Session.mount (d.redeclared edits)).page ∧
      s.page.html = (Session.mount (d.redeclared edits)).page.html ∧
      ∀ (h : Host) (n : ℕ), h.sessions[n]? = some s →
        ∀ moves : List Host.Move, (∀ move ∈ moves, move.givesTexts) →
          let edited := h.afterAll moves
          let declared :=
            (h.modify n fun _ => Session.mount (d.redeclared edits)).afterAll moves
          declared.sent = edited.sent ∧ declared.log = edited.log ∧
            declared = edited.redeclared n edits := by
  have hmount := Session.redeclared_of_edit hedit
  have hpage : s.page = (Session.mount (d.redeclared edits)).page := by
    rw [← hmount]
    rfl
  refine ⟨congrArg Session.store hmount, hpage, congrArg Node.html hpage, ?_⟩
  intro h n hs moves hmoves edited declared
  have hsame : (h.modify n fun _ => Session.mount (d.redeclared edits)) = h.redeclared n edits := by
    refine Host.modify_congr fun other hother => ?_
    cases hs.symm.trans hother
    exact hmount.symm
  have hdeclared : declared = edited.redeclared n edits := by
    rw [← Host.afterAll_redeclared ⟨s, hs, Session.covers_of_edit hedit⟩ hmoves, ← hsame]
  exact ⟨by rw [hdeclared, Host.redeclared_sent], by rw [hdeclared, Host.redeclared_log], hdeclared⟩

/-- Both inputs have what one of them was given last, and a click logs the same. -/
theorem edits_of_twoNames :
    let edits := [("name", "Cid"), ("name", "Dan")]
    ∃ s, (Session.mount twoNames).edit edits = .ok s ∧
      s.store = Store.ofDocument (twoNames.redeclared edits) ∧
      let h : Host := { Host.ofNetwork [] with sessions := [s] }
      ((h.modify 0 fun _ => Session.mount (twoNames.redeclared edits)).afterAll
        [.click 0 "log"]).log = (h.afterAll [.click 0 "log"]).log := by
  intro edits
  have hedit : ∃ s, (Session.mount twoNames).edit edits = .ok s := ⟨_, rfl⟩
  obtain ⟨s, hs⟩ := hedit
  obtain ⟨hstore, -, -, hruns⟩ := edits_as_declared hs
  have hclick := hruns { Host.ofNetwork [] with sessions := [s] } 0 rfl [.click 0 "log"]
    (by simp [Host.Move.givesTexts])
  exact ⟨s, hs, hstore, hclick.2.1⟩

end LivePage
