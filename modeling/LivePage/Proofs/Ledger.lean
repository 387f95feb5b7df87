/-
A ledger beside a host, which says of every task, request and report to which
activation it belongs. Activations are numbered in the order in which they
begin.

* `Ledger`, `Ledger.after`: the ledger and how a move continues it;
* `Ledger.Agrees`: what ledger and host have to do with one another, and one
  lemma for each thing that can happen to a task;
* `Ledger.after_step`: a move keeps them in agreement, and logs the reports of
  the activations that it ends.
-/
import LivePage.Proofs.Activation

namespace LivePage

/-- Which activation is behind the tasks, the requests and the ends of tasks. -/
structure Ledger where
  activations : List Activation
  /-- The activations of the tasks in line. -/
  line : List ℕ
  /-- The activations of the requests made so far. -/
  senders : List ℕ
  /-- The activations that have ended, in the order in which they did. -/
  ended : List ℕ

namespace Ledger

/-! ### Keeping a ledger -/

def empty : Ledger := ⟨[], [], [], []⟩

/-- The ledger after an activation has begun. -/
def record (l : Ledger) (a : Activation) : Ledger := { l with activations := l.activations ++ [a] }

/-- The ledger after the task of an activation has run on a host. -/
def perform (l : Ledger) (h : Host) (task : Task) (i : ℕ) : Ledger :=
  { l with
    senders := l.senders ++ List.replicate ((h.run task).1.sent.length - h.sent.length) i
    ended := l.ended ++ if (h.run task).2 = .ended then [i] else [] }

/-- The activations that wait for a reply that is held back. -/
def waiting (l : Ledger) (h : Host) : List ℕ := h.held.filterMap fun w => l.senders[w.request]?

/-- The ledger after a move, beside the host before it. -/
def after (l : Ledger) (h : Host) : Host.Move → Ledger
  | .press n id =>
    match h.snapshot? n id with
    | some a => { l.record a with line := l.line ++ [l.activations.length] }
    | none => l
  | .click n id =>
    match h.snapshot? n id with
    | some a => (l.record a).perform h (a.task false) l.activations.length
    | none => l
  | .run position =>
    match h.line[position]?, l.line[position]? with
    | some task, some i =>
      { l with line := l.line.eraseIdx position }.perform
        (h.withLine (h.line.eraseIdx position)) task i
    | _, _ => l
  | .release request =>
    match h.release request with
    | .ok _ => { l with line := l.line ++ l.senders[request]?.toList }
    | .error _ => l
  | .unhold => { l with line := l.line ++ l.waiting h }
  | .mount _ | .change .. | .write .. | .render _ => l

/-- The ledger after some moves. -/
def afterAll (l : Ledger) (h : Host) : List Host.Move → Ledger
  | [] => l
  | move :: rest => (l.after h move).afterAll (h.after move) rest

/-! ### What the ledger says -/

/-- The reply to the request of an activation. -/
def reply (l : Ledger) (network : List Delivery) (i : ℕ) : Reply :=
  (((l.senders.idxOf? i).bind fun request => network[request]?).getD .plain).reply

/-- The reports of an activation. -/
def block (l : Ledger) (network : List Delivery) (i : ℕ) : List Report :=
  match l.activations[i]? with
  | some a => a.block (l.reply network i)
  | none => []

/-- The request of an activation. -/
def request? (l : Ledger) (i : ℕ) : Option Request := l.activations[i]?.bind Activation.request?

/-- A task belongs to an activation: it is fresh before the request and answered after it. -/
def Follows (l : Ledger) (network : List Delivery) (task : Task) (i : ℕ) : Prop :=
  ∃ a, l.activations[i]? = some a ∧
    (i ∉ l.senders ∧ a.Fresh task ∨ i ∈ l.senders ∧ a.Answered (l.reply network i) task)

/-- **A ledger agrees with a host**, while the tasks of some activations are in hand: neither in
line, nor held back, nor ended. -/
structure Agrees (l : Ledger) (h : Host) (hand : List ℕ) : Prop where
  documents : ∀ a ∈ l.activations, ∃ s, h.sessions[a.session]? = some s ∧ s.document = a.document
  line : List.Forall₂ (l.Follows h.network) h.line l.line
  held : ∀ w ∈ h.held, ∃ i, l.senders[w.request]? = some i ∧ l.Follows h.network w.task i
  /-- No two replies that are held back are to one request. -/
  distinct : (h.held.map Held.request).Nodup
  sent : h.sent.map some = l.senders.map l.request?
  /-- No activation makes two requests. -/
  once : l.senders.Nodup
  /-- Every activation has ended, or is in hand, in line or held back, and only one of these. -/
  complete : (l.ended ++ (hand ++ (l.line ++ l.waiting h))).Perm
    (List.range l.activations.length)
  /-- An activation that has ended has made its request, if it has one. -/
  settled : ∀ i ∈ l.ended, (l.request? i).isSome → i ∈ l.senders

/-! ### Tasks, replies and reports of others -/

variable {l : Ledger} {h : Host} {hand : List ℕ} {i j : ℕ} {a : Activation} {task : Task}
  {network : List Delivery}

lemma activations_record (hj : j < l.activations.length) :
    (l.record a).activations[j]? = l.activations[j]? := by
  rw [record, List.getElem?_append_left hj]

lemma activations_record_self : (l.record a).activations[l.activations.length]? = some a := by
  simp [record]

lemma Follows.lt_length (hfollows : l.Follows network task j) : j < l.activations.length := by
  obtain ⟨b, hb, -⟩ := hfollows
  exact (List.getElem?_eq_some_iff.mp hb).1

lemma Follows.record (hfollows : l.Follows network task j) :
    (l.record a).Follows network task j := by
  have hj := hfollows.lt_length
  obtain ⟨b, hb, htask⟩ := hfollows
  exact ⟨b, (activations_record hj).trans hb, htask⟩

/-- The requests of some activations are no requests of another. -/
lemma reply_append {more : List ℕ} (hj : j ∉ more) :
    { l with senders := l.senders ++ more }.reply network j = l.reply network j := by
  have hnone : more.idxOf? j = none := List.idxOf?_eq_none_iff.mpr hj
  rw [List.idxOf?] at hnone
  simp [reply, List.idxOf?, List.findIdx?_append, hnone]

lemma reply_send_self (network : List Delivery) (hi : i ∉ l.senders) :
    { l with senders := l.senders ++ [i] }.reply network i =
      (network[l.senders.length]?.getD .plain).reply := by
  have hnone : l.senders.idxOf? i = none := List.idxOf?_eq_none_iff.mpr hi
  rw [List.idxOf?] at hnone
  simp [reply, List.idxOf?, List.findIdx?_append, hnone]

lemma block_record (hj : j < l.activations.length) :
    (l.record a).block network j = l.block network j := by
  rw [block, block, activations_record hj]
  rfl

lemma Follows.send (hfollows : l.Follows network task j) (hj : j ≠ i) :
    { l with senders := l.senders ++ [i] }.Follows network task j := by
  obtain ⟨b, hb, hfresh | hanswered⟩ := hfollows
  · exact ⟨b, hb, .inl ⟨by simp [hfresh.1, hj], hfresh.2⟩⟩
  · refine ⟨b, hb, .inr ⟨by simp [hanswered.1], ?_⟩⟩
    rw [reply_append (by simpa using hj)]
    exact hanswered.2

/-- Running a task says nothing about other activations. -/
lemma block_perform (hj : j ≠ i) :
    (l.perform h task i).block network j = l.block network j := by
  have hreply : (l.perform h task i).reply network j = l.reply network j :=
    reply_append (by simp [List.mem_replicate, hj])
  rw [block, block, hreply]
  rfl

lemma perform_of_same_sent {next : Host} (hrun : h.run task = (next, .ended))
    (hsent : next.sent = h.sent) :
    l.perform h task i = { l with ended := l.ended ++ [i] } := by
  simp [perform, hrun, hsent]

lemma perform_of_sent {next : Host} {progress : Progress} {request : Request}
    (hrun : h.run task = (next, progress)) (hsent : next.sent = h.sent ++ [request]) :
    l.perform h task i =
      { l with
        senders := l.senders ++ [i]
        ended := l.ended ++ if progress = .ended then [i] else [] } := by
  simp [perform, hrun, hsent]

/-! ### What agreement implies -/

namespace Agrees

variable (hagrees : l.Agrees h hand)

include hagrees

lemma nodup : (l.ended ++ (hand ++ (l.line ++ l.waiting h))).Nodup :=
  hagrees.complete.nodup_iff.mpr List.nodup_range

lemma lt_length (hj : j ∈ l.ended ++ (hand ++ (l.line ++ l.waiting h))) :
    j < l.activations.length :=
  List.mem_range.mp (hagrees.complete.mem_iff.mp hj)

lemma isSome_request? (hj : j ∈ l.senders) : (l.request? j).isSome := by
  have hmem : l.request? j ∈ h.sent.map some := hagrees.sent ▸ List.mem_map_of_mem hj
  obtain ⟨request, -, hrequest⟩ := List.mem_map.mp hmem
  rw [← hrequest]
  rfl

lemma length_sent : h.sent.length = l.senders.length := by
  simpa using congrArg List.length hagrees.sent

lemma exists_waiting {w : Held} (hw : w ∈ h.held) :
    ∃ j ∈ l.waiting h, l.senders[w.request]? = some j ∧ l.Follows h.network w.task j := by
  obtain ⟨j, hj, hfollows⟩ := hagrees.held w hw
  exact ⟨j, List.mem_filterMap.mpr ⟨w, hw, hj⟩, hj, hfollows⟩

end Agrees

lemma Agrees.lt_of_sender (hagrees : l.Agrees h hand) (hj : j ∈ l.senders) :
    j < l.activations.length := by
  obtain ⟨request, hrequest⟩ := Option.isSome_iff_exists.mp (hagrees.isSome_request? hj)
  obtain ⟨b, hb, -⟩ := Option.bind_eq_some_iff.mp hrequest
  exact (List.getElem?_eq_some_iff.mp hb).1

/-- The task of a new activation is fresh. -/
lemma Agrees.follows_record (hagrees : l.Agrees h hand) (a : Activation) (pressed : Bool) :
    (l.record a).Follows network (a.task pressed) l.activations.length :=
  ⟨a, activations_record_self,
    .inl ⟨fun hmem => (hagrees.lt_of_sender hmem).ne rfl, rfl, rfl⟩⟩

/-! ### Keeping them in agreement -/

lemma documents_modify {n m : ℕ} {d : Document} {f : Session → Session}
    (hf : ∀ s, h.sessions[n]? = some s → (f s).document = s.document)
    (hs : ∃ s, h.sessions[m]? = some s ∧ s.document = d) :
    ∃ s, (h.modify n f).sessions[m]? = some s ∧ s.document = d := by
  obtain ⟨s, hs, rfl⟩ := hs
  rw [Host.modify, List.getElem?_modify, hs]
  by_cases hnm : n = m
  · exact ⟨f s, by simp [hnm], hf s (hnm ▸ hs)⟩
  · exact ⟨s, by simp [hnm], rfl⟩

lemma forall₂_of_mem {α β : Type} {R S : α → β → Prop} {xs : List α} {ys : List β}
    (hR : List.Forall₂ R xs ys) (hRS : ∀ x, ∀ y ∈ ys, R x y → S x y) : List.Forall₂ S xs ys := by
  induction hR with
  | nil => exact .nil
  | cons hxy _ ih =>
      refine .cons (hRS _ _ List.mem_cons_self hxy) (ih fun x y hy => ?_)
      exact hRS x y (List.mem_cons_of_mem _ hy)

/-- Of the replies that are held back, only one is to a request. -/
lemma held_perm {held : List Held} {request : ℕ} {w : Held}
    (hdistinct : (held.map Held.request).Nodup)
    (hw : held.find? (·.request == request) = some w) :
    held.Perm (w :: held.filter (·.request != request)) := by
  induction held with
  | nil => simp at hw
  | cons u rest ih =>
      rw [List.map_cons, List.nodup_cons] at hdistinct
      by_cases hu : u.request = request
      · have hrest : rest.filter (·.request != request) = rest := by
          rw [List.filter_eq_self]
          intro x hx
          have hne : x.request ≠ u.request := fun heq =>
            hdistinct.1 (heq ▸ List.mem_map_of_mem hx)
          simpa [← hu] using hne
        rw [List.find?_cons_of_pos (by simpa using hu), Option.some.injEq] at hw
        rw [List.filter_cons_of_neg (by simp [hu]), hrest, hw]
      · rw [List.find?_cons_of_neg (by simpa using hu)] at hw
        rw [List.filter_cons_of_pos (by simpa using hu)]
        exact ((ih hdistinct.2 hw).cons u).trans (.swap w u _)

namespace Agrees

/-- The sessions may change as long as each keeps its document. -/
lemma modify (hagrees : l.Agrees h hand) {n : ℕ} {f : Session → Session}
    (hf : ∀ s, h.sessions[n]? = some s → (f s).document = s.document) :
    l.Agrees (h.modify n f) hand :=
  { hagrees with documents := fun a ha => documents_modify hf (hagrees.documents a ha) }

lemma mount (hagrees : l.Agrees h hand) (d : Document) : l.Agrees (h.mount d).2 hand := by
  refine { hagrees with documents := fun a ha => ?_ }
  obtain ⟨s, hs, hdocument⟩ := hagrees.documents a ha
  refine ⟨s, ?_, hdocument⟩
  rw [Host.mount, List.getElem?_append_left (List.getElem?_eq_some_iff.mp hs).1, hs]

/-- The task in hand ends. -/
lemma finish (hagrees : l.Agrees h [i]) (n : ℕ) (reports : List Report)
    (hsettled : (l.request? i).isSome → i ∈ l.senders) :
    { l with ended := l.ended ++ [i] }.Agrees (h.conclude n reports) [] := by
  refine { hagrees with
    documents := fun a ha => documents_modify (fun _ _ => rfl) (hagrees.documents a ha)
    complete := ?_
    settled := ?_ }
  · rw [List.append_assoc]
    exact hagrees.complete
  · intro j hj
    rcases List.mem_append.mp hj with hj | hj
    · exact hagrees.settled j hj
    · rw [List.mem_singleton] at hj
      subst hj
      exact hsettled

/-- The task in hand makes its request. -/
lemma send (hagrees : l.Agrees h [i]) {request : Request} (hi : i ∉ l.senders)
    (hrequest : l.request? i = some request) :
    { l with senders := l.senders ++ [i] }.Agrees { h with sent := h.sent ++ [request] } [i] := by
  have hne : ∀ j ∈ l.line ++ l.waiting h, j ≠ i := by
    have hnodup := hagrees.nodup.of_append_right
    rintro j hj rfl
    exact (List.nodup_cons.mp hnodup).1 hj
  have hget (r j : ℕ) (hr : l.senders[r]? = some j) : (l.senders ++ [i])[r]? = some j := by
    rw [List.getElem?_append_left (List.getElem?_eq_some_iff.mp hr).1, hr]
  have hwaiting : { l with senders := l.senders ++ [i] }.waiting
      { h with sent := h.sent ++ [request] } = l.waiting h := by
    refine List.filterMap_congr fun w hw => ?_
    obtain ⟨j, hj, -⟩ := hagrees.held w hw
    rw [hget _ j hj, hj]
  refine { hagrees with
    line := forall₂_of_mem hagrees.line fun task j hj hfollows => hfollows.send (hne j ?_)
    held := fun w hw => ?_
    sent := ?_
    once := ?_
    complete := ?_
    settled := fun j hj hsome => List.mem_append_left _ (hagrees.settled j hj hsome) }
  · exact List.mem_append_left _ hj
  · obtain ⟨j, hj, hsenders, hfollows⟩ := hagrees.exists_waiting hw
    exact ⟨j, hget _ j hsenders, hfollows.send (hne j (List.mem_append_right _ hj))⟩
  · rw [List.map_append, List.map_append, hagrees.sent]
    exact congrArg (_ ++ [·]) hrequest.symm
  · rw [← List.concat_eq_append]
    exact hagrees.once.concat hi
  · rw [hwaiting]
    exact hagrees.complete

/-- The reply to the task in hand is held back. -/
lemma hold (hagrees : l.Agrees h [i]) {request : ℕ} (hrequest : l.senders[request]? = some i)
    (hfollows : l.Follows h.network task i) :
    l.Agrees { h with held := h.held ++ [⟨request, task⟩] } [] := by
  have hnew : request ∉ h.held.map Held.request := by
    intro hmem
    obtain ⟨w, hw, rfl⟩ := List.mem_map.mp hmem
    obtain ⟨j, hj, hsenders, -⟩ := hagrees.exists_waiting hw
    have hij : i = j := Option.some.inj (hrequest.symm.trans hsenders)
    have hnodup := List.nodup_cons.mp hagrees.nodup.of_append_right
    exact hnodup.1 (List.mem_append_right l.line (hij ▸ hj))
  refine { hagrees with held := ?_, distinct := ?_, complete := ?_ }
  · rw [List.forall_mem_append]
    exact ⟨hagrees.held, by simpa using ⟨i, hrequest, hfollows⟩⟩
  · rw [List.map_append, List.map_singleton, ← List.concat_eq_append]
    exact hagrees.distinct.concat hnew
  · have hwaiting : l.waiting { h with held := h.held ++ [⟨request, task⟩] } =
        l.waiting h ++ [i] := by
      simp [waiting, hrequest]
    rw [hwaiting]
    refine List.Perm.trans ?_ hagrees.complete
    rw [List.perm_iff_count]
    intro j
    simp only [List.count_append, List.count_nil]
    omega

/-- A task is taken from the line. -/
lemma take (hagrees : l.Agrees h []) {position : ℕ} (htask : h.line[position]? = some task)
    (hi : l.line[position]? = some i) :
    { l with line := l.line.eraseIdx position }.Agrees
        (h.withLine (h.line.eraseIdx position)) [i] ∧ l.Follows h.network task i := by
  obtain ⟨hlt, rfl⟩ := List.getElem?_eq_some_iff.mp htask
  obtain ⟨hlt', rfl⟩ := List.getElem?_eq_some_iff.mp hi
  refine ⟨{ hagrees with line := ?_, complete := ?_ }, hagrees.line.get hlt hlt'⟩
  · rw [Host.withLine, List.eraseIdx_eq_take_drop_succ, List.eraseIdx_eq_take_drop_succ]
    exact List.rel_append (List.forall₂_take position hagrees.line)
      (List.forall₂_drop (position + 1) hagrees.line)
  · refine List.Perm.trans (List.Perm.append_left _ ?_) hagrees.complete
    rw [List.nil_append, ← List.append_assoc]
    exact (List.getElem_cons_eraseIdx_perm hlt').append_right _

/-- An activation begins, and its task is in hand. -/
lemma record (hagrees : l.Agrees h [])
    (hdocument : ∃ s, h.sessions[a.session]? = some s ∧ s.document = a.document) :
    (l.record a).Agrees h [l.activations.length] := by
  have hrequest (j : ℕ) (hj : j < l.activations.length) :
      (l.record a).request? j = l.request? j := by
    rw [Ledger.request?, Ledger.request?, activations_record hj]
  refine { hagrees with
    documents := ?_
    line := hagrees.line.imp fun _ _ => Follows.record
    held := fun w hw => ?_
    sent := ?_
    complete := ?_
    settled := fun j hj hsome => ?_ }
  · rw [Ledger.record, List.forall_mem_append]
    exact ⟨hagrees.documents, by simpa using hdocument⟩
  · obtain ⟨j, hj, hfollows⟩ := hagrees.held w hw
    exact ⟨j, hj, hfollows.record⟩
  · rw [hagrees.sent]
    exact List.map_congr_left fun j hj => (hrequest j (hagrees.lt_of_sender hj)).symm
  · rw [Ledger.record, List.length_append, List.length_singleton, List.range_succ]
    exact List.perm_middle.trans
      ((hagrees.complete.cons _).trans (List.perm_append_singleton _ _).symm)
  · rw [hrequest j (hagrees.lt_length (List.mem_append_left _ hj))] at hsome
    exact hagrees.settled j hj hsome

/-- The task in hand goes to the end of the line. -/
lemma enqueue (hagrees : l.Agrees h [i]) (hfollows : l.Follows h.network task i) :
    { l with line := l.line ++ [i] }.Agrees (h.withLine (h.line ++ [task])) [] := by
  refine { hagrees with
    line := List.rel_append hagrees.line (.cons hfollows .nil)
    complete := List.Perm.trans (List.Perm.append_left _ ?_) hagrees.complete }
  rw [List.nil_append, List.append_assoc]
  exact List.perm_middle

/-- A reply that is held back is let go, and its task is in hand. -/
lemma release (hagrees : l.Agrees h []) {request : ℕ} {w : Held}
    (hw : h.held.find? (·.request == request) = some w) :
    ∃ j, l.senders[request]? = some j ∧ l.Follows h.network w.task j ∧
      l.Agrees { h with held := h.held.filter (·.request != request) } [j] := by
  obtain ⟨j, hj, hfollows⟩ := hagrees.held w (List.mem_of_find?_eq_some hw)
  have hrequest : w.request = request := by simpa using List.find?_some hw
  rw [hrequest] at hj
  refine ⟨j, hj, hfollows, { hagrees with
    held := fun u hu => hagrees.held u (List.mem_of_mem_filter hu)
    distinct := hagrees.distinct.sublist (List.filter_sublist.map _)
    complete := List.Perm.trans (List.Perm.append_left _ ?_) hagrees.complete }⟩
  have hwaiting := (held_perm hagrees.distinct hw).filterMap fun w => l.senders[w.request]?
  rw [List.filterMap_cons_some (by rw [hrequest, hj])] at hwaiting
  rw [List.nil_append, List.singleton_append]
  exact List.perm_middle.symm.trans (hwaiting.symm.append_left l.line)

/-- All replies are let go. -/
lemma unhold (hagrees : l.Agrees h []) :
    { l with line := l.line ++ l.waiting h }.Agrees h.unhold [] := by
  have htasks : ∀ held : List Held,
      (∀ w ∈ held, ∃ i, l.senders[w.request]? = some i ∧ l.Follows h.network w.task i) →
      List.Forall₂ (l.Follows h.network) (held.map Held.task)
        (held.filterMap fun w => l.senders[w.request]?) := by
    intro held hheld
    induction held with
    | nil => exact .nil
    | cons w rest ih =>
        rw [List.forall_mem_cons] at hheld
        obtain ⟨⟨i, hi, hfollows⟩, hrest⟩ := hheld
        rw [List.map_cons, List.filterMap_cons, hi]
        exact .cons hfollows (ih hrest)
  refine { hagrees with
    line := List.rel_append hagrees.line (htasks h.held hagrees.held)
    held := by simp [Host.unhold]
    distinct := by simp [Host.unhold]
    complete := ?_ }
  simpa [waiting, Host.unhold] using hagrees.complete

/-- **The task in hand runs.** -/
lemma perform (hagrees : l.Agrees h [i]) (hfollows : l.Follows h.network task i) :
    (l.perform h task i).Agrees (h.run task).1 [] ∧
      (h.run task).1.log = h.log ++
        if (h.run task).2 = .ended then (l.perform h task i).block h.network i else [] := by
  obtain ⟨a, ha, ⟨hi, hfresh⟩ | ⟨hi, hanswered⟩⟩ := hfollows
  · have hrequest? : l.request? i = a.request? := by rw [Ledger.request?, ha, Option.bind_some]
    have hreply := reply_send_self h.network hi
    rw [← hagrees.length_sent] at hreply
    have hdocument := hagrees.documents a (List.mem_of_getElem? ha)
    rcases Host.run_fresh hfresh hdocument with ⟨hnone, hrun⟩ |
      ⟨o, request, delivery, ho, hrequest, rfl, hrun | hrun⟩
    · -- there is no request to make
      have hrun := hrun (l.reply h.network i)
      rw [perform_of_same_sent hrun rfl, hrun, Host.conclude_log, if_pos rfl, block, ha]
      refine ⟨hagrees.finish _ _ fun hsome => ?_, rfl⟩
      simp [hrequest?, hnone] at hsome
    · -- the reply is there at once
      have hsend := hagrees.send hi (hrequest?.trans hrequest)
      rw [perform_of_sent hrun rfl, hrun, Host.conclude_log, if_pos rfl, if_pos rfl, block, ha]
      refine ⟨hsend.finish _ _ fun _ => by simp, ?_⟩
      exact congrArg (h.log ++ a.block ·) hreply.symm
    · -- the reply is held back
      have hsend := hagrees.send hi (hrequest?.trans hrequest)
      rw [perform_of_sent hrun rfl, hrun, if_neg (by simp), if_neg (by simp), List.append_nil,
        List.append_nil]
      refine ⟨hsend.hold ?_ ⟨a, ha, .inr ⟨by simp, hfresh.1, by simp [hrequest], o, ho, ?_⟩⟩, rfl⟩
      · rw [hagrees.length_sent, List.getElem?_concat_length]
      · rw [← hreply]
  · -- the reply has been let go
    have hrun := h.run_answered hanswered
    rw [perform_of_same_sent hrun rfl, hrun, Host.conclude_log, if_pos rfl, block, ha]
    exact ⟨hagrees.finish _ _ fun _ => hi, rfl⟩

end Agrees

/-! ### Moves -/

/-- How a move takes a ledger and a host to the next ones: the new ends of activations come with
their reports, and nothing changes about the activations that had ended before. -/
structure Step (l : Ledger) (h : Host) (move : Host.Move) (l' : Ledger) (h' : Host) : Prop where
  agrees : l'.Agrees h' []
  network : h'.network = h.network
  activations : l'.activations = l.activations ++ (h.activated? move).toList
  log : ∃ recent, l'.ended = l.ended ++ recent ∧
    h'.log = h.log ++ recent.flatMap (l'.block h.network)
  same : ∀ i ∈ l.ended, l'.block h.network i = l.block h.network i

/-- The task in hand runs, as part of a move. -/
lemma Agrees.perform_log (hagrees : l.Agrees h [i]) (hfollows : l.Follows h.network task i) :
    ∃ recent, (l.perform h task i).ended = l.ended ++ recent ∧
      (h.run task).1.log = h.log ++ recent.flatMap ((l.perform h task i).block h.network) := by
  refine ⟨if (h.run task).2 = .ended then [i] else [], rfl, ?_⟩
  rw [(hagrees.perform hfollows).2]
  split <;> simp

lemma Agrees.ne_of_ended (hagrees : l.Agrees h (i :: hand)) (hj : j ∈ l.ended) : j ≠ i := by
  rintro rfl
  exact (List.nodup_append.mp hagrees.nodup).2.2 j hj j List.mem_cons_self rfl

/-- A move that ends no task. -/
lemma Step.quiet {move : Host.Move} {l' : Ledger} {h' : Host} (hagrees : l'.Agrees h' [])
    (hnetwork : h'.network = h.network) (hlog : h'.log = h.log)
    (hmove : h.activated? move = none) (hactivations : l'.activations = l.activations)
    (hsenders : l'.senders = l.senders) (hended : l'.ended = l.ended) : Step l h move l' h' where
  agrees := hagrees
  network := hnetwork
  activations := by simp [hactivations, hmove]
  log := ⟨[], by simp [hended], by simp [hlog]⟩
  same i _ := by simp [block, reply, hactivations, hsenders]

variable {n : ℕ} {id : String}

lemma step_press (hagrees : l.Agrees h []) :
    Step l h (.press n id) (l.after h (.press n id)) (h.after (.press n id)) := by
  rw [Ledger.after, Host.after, Host.press]
  rcases h.activation_cases n id true with ⟨e, hnone, hactivation⟩ | ⟨a, ha, hactivation⟩
  · rw [hnone, hactivation]
    exact .quiet hagrees rfl rfl hnone rfl rfl rfl
  · rw [ha, hactivation]
    have hhand := hagrees.record (Host.exists_of_snapshot? ha)
    exact {
      agrees := hhand.enqueue (hagrees.follows_record a true)
      network := rfl
      activations := by simp [record, Host.activated?, ha]
      log := ⟨[], by simp [record], by simp⟩
      same := fun j hj => block_record (hagrees.lt_length (List.mem_append_left _ hj)) }

lemma step_click (hagrees : l.Agrees h []) :
    Step l h (.click n id) (l.after h (.click n id)) (h.after (.click n id)) := by
  rw [Ledger.after, Host.after]
  rcases h.activation_cases n id false with ⟨e, hnone, hactivation⟩ | ⟨a, ha, hactivation⟩
  · rw [hnone, hactivation]
    exact .quiet hagrees rfl rfl hnone rfl rfl rfl
  · rw [ha, hactivation]
    have hhand := hagrees.record (Host.exists_of_snapshot? ha)
    have hfollows : (l.record a).Follows h.network (a.task false) l.activations.length :=
      hagrees.follows_record a false
    exact {
      agrees := (hhand.perform hfollows).1
      network := h.run_network _
      activations := by simp [perform, record, Host.activated?, ha]
      log := hhand.perform_log hfollows
      same := fun j hj => (block_perform (hhand.ne_of_ended hj)).trans
        (block_record (hagrees.lt_length (List.mem_append_left _ hj))) }

lemma step_run (hagrees : l.Agrees h []) (position : ℕ) :
    Step l h (.run position) (l.after h (.run position)) (h.after (.run position)) := by
  rw [Ledger.after, Host.after]
  rcases htask : h.line[position]? with _ | task
  · exact .quiet hagrees rfl rfl rfl rfl rfl rfl
  · have hlt := (List.getElem?_eq_some_iff.mp htask).1
    rw [hagrees.line.length_eq] at hlt
    have hi := List.getElem?_eq_getElem hlt
    obtain ⟨hhand, hfollows⟩ := hagrees.take htask hi
    rw [hi]
    exact {
      agrees := (hhand.perform hfollows).1
      network := Host.run_network _ task
      activations := by simp [perform, Host.activated?]
      log := hhand.perform_log hfollows
      same := fun j hj => block_perform (hhand.ne_of_ended hj) }

lemma step_release (hagrees : l.Agrees h []) (request : ℕ) :
    Step l h (.release request) (l.after h (.release request)) (h.after (.release request)) := by
  rw [Ledger.after, Host.after]
  rcases hw : h.held.find? (·.request == request) with _ | w
  · rw [Host.release, hw]
    exact .quiet hagrees rfl rfl rfl rfl rfl rfl
  · obtain ⟨j, hj, hfollows, hhand⟩ := hagrees.release hw
    rw [Host.release, hw, hj]
    exact .quiet (hhand.enqueue hfollows) rfl rfl rfl rfl rfl rfl

/-- **A move takes a ledger that agrees with its host to one that does so too.** -/
theorem after_step (hagrees : l.Agrees h []) (move : Host.Move) :
    Step l h move (l.after h move) (h.after move) := by
  cases move with
  | mount d => exact .quiet (hagrees.mount d) rfl rfl rfl rfl rfl rfl
  | change n id v =>
      rw [Host.after_change]
      exact .quiet (hagrees.modify fun s _ => Host.document_change s id v) rfl rfl rfl rfl rfl rfl
  | write n id changes =>
      exact .quiet (hagrees.modify fun _ _ => rfl) rfl rfl rfl rfl rfl rfl
  | render n => exact .quiet (hagrees.modify fun _ _ => rfl) rfl rfl rfl rfl rfl rfl
  | press n id => exact step_press hagrees
  | click n id => exact step_click hagrees
  | run position => exact step_run hagrees position
  | release request => exact step_release hagrees request
  | unhold => exact .quiet hagrees.unhold rfl rfl rfl rfl rfl rfl

end Ledger

end LivePage
