/-
Channels between runs of actions and a reader. The runs may overlap, their requests may be replied
to in any order or never, and the reader may take reports at any time. What it takes is what was
offered, except for what came while the channel was full; the runs themselves notice neither.

* `Offer`, `Sink.offers`: reports together with the states in which a sink meets them;
* `ReportChannel.Holds`, `Holds.queue_deliver`: what is accepted of some reports;
* `Exchange`, `Exchange.after`: a channel with all that goes in and comes out;
* `Exchange.Balanced`: the taken and the waiting reports are the ones that found room;
* `Exchange.Alike`, `Exchange.Alike.run`: what the runs do does not depend on the channel;
* `Exchange.Conveys`, `channel_conveys`: runs around a channel with room for some reports.
-/
import LivePage.Proofs.Outcomes

namespace LivePage

/-! ### Offers -/

/-- A report that a sink is offered, and the state in which it meets the sink. -/
structure Offer (σ : Type) where
  before : σ
  report : Report

namespace Sink

variable {σ : Type} (sink : Sink σ) (state : σ)

/-- The offers in which some reports are delivered. -/
def offers (state : σ) : List Report → List (Offer σ)
  | [] => []
  | report :: rest => ⟨state, report⟩ :: offers (sink.offer state report).1 rest

lemma deliver_cons (report : Report) (rest : List Report) :
    sink.deliver state (report :: rest) = sink.deliver (sink.offer state report).1 rest :=
  rfl

/-- Every report is offered once. -/
@[simp] lemma map_report_offers (reports : List Report) :
    (sink.offers state reports).map (·.report) = reports := by
  induction reports generalizing state with
  | nil => rfl
  | cons report rest ih => rw [offers, List.map_cons, ih]

end Sink

namespace ReportChannel

/-! ### Channels with room for some reports -/

/-- A channel has room for `k` reports, and holds no more. -/
structure Holds (k : ℕ) (c : ReportChannel) : Prop where
  room_eq : c.room = k
  length_le : c.queue.length ≤ k

/-- The reports of the offers that did not meet `k` waiting reports. -/
def accepted (k : ℕ) (offers : List (Offer ReportChannel)) : List Report :=
  (offers.filter fun offer => offer.before.queue.length ≠ k).map (·.report)

variable {c : ReportChannel} {k : ℕ}

lemma accepted_append (offers others : List (Offer ReportChannel)) :
    accepted k (offers ++ others) = accepted k offers ++ accepted k others := by
  rw [accepted, List.filter_append, List.map_append, accepted, accepted]

namespace Holds

lemma empty (k : ℕ) : (ReportChannel.empty k).Holds k :=
  ⟨rfl, Nat.zero_le k⟩

lemma isFull_iff (hc : c.Holds k) (hk : 0 < k) : c.isFull = true ↔ c.queue.length = k := by
  have hlength := hc.length_le
  simp only [isFull, hc.room_eq, Bool.and_eq_true, decide_eq_true_eq]
  omega

/-- A full channel stays as it is. -/
lemma offer_of_eq (hc : c.Holds k) (hk : 0 < k) (hfull : c.queue.length = k) (report : Report) :
    (sink.offer c report).1 = c := by
  have hfull : c.isFull = true := (hc.isFull_iff hk).mpr hfull
  simp [sink, hfull]

/-- Another one accepts the report. -/
lemma offer_of_ne (hc : c.Holds k) (hk : 0 < k) (hroom : c.queue.length ≠ k) (report : Report) :
    (sink.offer c report).1 = { c with queue := c.queue ++ [report] } := by
  have hfull : ¬c.isFull = true := fun hfull => hroom ((hc.isFull_iff hk).mp hfull)
  simp [sink, hfull]

lemma offer (hc : c.Holds k) (hk : 0 < k) (report : Report) : (sink.offer c report).1.Holds k := by
  by_cases hroom : c.queue.length = k
  · rw [hc.offer_of_eq hk hroom]
    exact hc
  · rw [hc.offer_of_ne hk hroom]
    have hlength := hc.length_le
    refine ⟨hc.room_eq, ?_⟩
    rw [List.length_append, List.length_singleton]
    omega

lemma deliver (hc : c.Holds k) (hk : 0 < k) (reports : List Report) :
    (sink.deliver c reports).Holds k := by
  induction reports generalizing c with
  | nil => exact hc
  | cons report rest ih => exact ih (hc.offer hk report)

/-- Also between two reports of one run there are never more. -/
lemma before_of_mem (hc : c.Holds k) (hk : 0 < k) {offer : Offer ReportChannel}
    {reports : List Report} (hoffer : offer ∈ sink.offers c reports) : offer.before.Holds k := by
  induction reports generalizing c with
  | nil => cases hoffer
  | cons report rest ih =>
      rw [Sink.offers, List.mem_cons] at hoffer
      obtain rfl | hrest := hoffer
      · exact hc
      · exact ih (hc.offer hk report) hrest

/-- Of some reports, those wait in the end that did not meet a full channel. -/
lemma queue_deliver (hc : c.Holds k) (hk : 0 < k) (reports : List Report) :
    (sink.deliver c reports).queue = c.queue ++ accepted k (sink.offers c reports) := by
  induction reports generalizing c with
  | nil => exact (List.append_nil _).symm
  | cons report rest ih =>
      rw [Sink.deliver_cons, ih (hc.offer hk report), Sink.offers]
      by_cases hroom : c.queue.length = k
      · rw [hc.offer_of_eq hk hroom, accepted, accepted,
          List.filter_cons_of_neg (by simpa using hroom)]
      · rw [hc.offer_of_ne hk hroom, accepted, accepted,
          List.filter_cons_of_pos (by simpa using hroom), List.map_cons, List.append_assoc]
        rfl

end Holds

end ReportChannel

/-! ### Runs around a channel -/

/-- A channel with what goes on around it: the orders whose requests wait for a reply, all requests
and offers so far, and the reports that were taken. -/
structure Exchange where
  channel : ReportChannel
  waiting : List Order
  requests : List Request
  offers : List (Offer ReportChannel)
  taken : List Report

namespace Exchange

/-- What happens around a channel. -/
inductive Event
  /-- An order is started, if there is one. -/
  | start (order : Option Order) (store : Store) (d : Document)
  /-- One of the requests that wait is replied to. -/
  | reply (place : ℕ) (reply : Reply)
  /-- The reader takes a report, if one waits. -/
  | take

def opened (room : ℤ) : Exchange := ⟨.empty room, [], [], [], []⟩

/-- Reports are delivered to the channel. -/
def delivered (x : Exchange) (reports : List Report) : Exchange :=
  { x with
    channel := ReportChannel.sink.deliver x.channel reports
    offers := x.offers ++ ReportChannel.sink.offers x.channel reports }

def after (x : Exchange) : Event → Exchange
  | .start none _ _ => x
  | .start (some order) store d =>
    match order.start store d with
    | .finished reports => x.delivered reports
    | .waiting request =>
      { x with waiting := x.waiting ++ [order], requests := x.requests ++ [request] }
  | .reply place reply =>
    match x.waiting[place]? with
    | none => x
    | some order =>
      { x with waiting := x.waiting.eraseIdx place }.delivered (order.finish reply)
  | .take =>
    match x.channel.take? with
    | none => x
    | some (report, channel) => { x with channel := channel, taken := x.taken ++ [report] }

def run (x : Exchange) (events : List Event) : Exchange := events.foldl after x

/-- The reports that the channel was offered. -/
def offered (x : Exchange) : List Report := x.offers.map (·.report)

variable {x y : Exchange} {k : ℕ} {events others : List Event} {reports : List Report}

@[simp] lemma offered_delivered (x : Exchange) (reports : List Report) :
    (x.delivered reports).offered = x.offered ++ reports := by
  simp [offered, delivered]

/-! ### What is taken -/

/-- Of all reports that were offered, those that met room in the channel were taken or still wait,
in their order. -/
structure Balanced (k : ℕ) (x : Exchange) : Prop where
  holds : x.channel.Holds k
  met : ∀ offer ∈ x.offers, offer.before.Holds k
  conveyed : x.taken ++ x.channel.queue = ReportChannel.accepted k x.offers

namespace Balanced

lemma delivered (hx : x.Balanced k) (hk : 0 < k) (reports : List Report) :
    (x.delivered reports).Balanced k where
  holds := hx.holds.deliver hk reports
  met offer hoffer := by
    obtain hbefore | hnew := List.mem_append.mp hoffer
    · exact hx.met offer hbefore
    · exact hx.holds.before_of_mem hk hnew
  conveyed :=
    calc x.taken ++ (ReportChannel.sink.deliver x.channel reports).queue
        = (x.taken ++ x.channel.queue) ++
            ReportChannel.accepted k (ReportChannel.sink.offers x.channel reports) := by
          rw [hx.holds.queue_deliver hk, List.append_assoc]
      _ = ReportChannel.accepted k (x.delivered reports).offers := by
          rw [hx.conveyed, Exchange.delivered, ReportChannel.accepted_append]

lemma take (hx : x.Balanced k) : (x.after .take).Balanced k := by
  rcases hqueue : x.channel.queue with _ | ⟨report, rest⟩
  · simpa only [after, ReportChannel.take?, hqueue] using hx
  · simp only [after, ReportChannel.take?, hqueue]
    refine ⟨⟨hx.holds.room_eq, ?_⟩, hx.met, ?_⟩
    · have hlength := hx.holds.length_le
      rw [hqueue, List.length_cons] at hlength
      exact Nat.le_of_succ_le hlength
    · rw [← hx.conveyed, hqueue, List.append_assoc]
      rfl

lemma after (hx : x.Balanced k) (hk : 0 < k) (event : Event) : (x.after event).Balanced k := by
  cases event with
  | start order store d =>
      rcases order with _ | order
      · exact hx
      · rw [Exchange.after]
        split
        · exact hx.delivered hk _
        · exact ⟨hx.holds, hx.met, hx.conveyed⟩
  | reply place reply =>
      rw [Exchange.after]
      split
      case h_1 => exact hx
      case h_2 order _ =>
        have herased : Balanced k { x with waiting := x.waiting.eraseIdx place } :=
          ⟨hx.holds, hx.met, hx.conveyed⟩
        exact herased.delivered hk (order.finish reply)
  | take => exact hx.take

lemma run (hx : x.Balanced k) (hk : 0 < k) (events : List Event) : (x.run events).Balanced k := by
  induction events generalizing x with
  | nil => exact hx
  | cons event rest ih => exact ih (hx.after hk event)

lemma opened (k : ℕ) : (Exchange.opened k).Balanced k :=
  ⟨.empty k, nofun, rfl⟩

end Balanced

/-! ### What the runs do -/

/-- Two exchanges in which the same orders wait, and in which the same was requested and offered so
far. -/
structure Alike (x y : Exchange) : Prop where
  waiting : x.waiting = y.waiting
  requests : x.requests = y.requests
  offered : x.offered = y.offered

namespace Alike

lemma delivered (hxy : x.Alike y) (reports : List Report) :
    (x.delivered reports).Alike (y.delivered reports) :=
  ⟨hxy.waiting, hxy.requests, by rw [offered_delivered, offered_delivered, hxy.offered]⟩

lemma take (x : Exchange) : (x.after .take).Alike x := by
  rw [Exchange.after]
  split <;> exact ⟨rfl, rfl, rfl⟩

lemma refl (x : Exchange) : x.Alike x :=
  ⟨rfl, rfl, rfl⟩

lemma trans {z : Exchange} (hxy : x.Alike y) (hyz : y.Alike z) : x.Alike z :=
  ⟨hxy.waiting.trans hyz.waiting, hxy.requests.trans hyz.requests, hxy.offered.trans hyz.offered⟩

lemma symm (hxy : x.Alike y) : y.Alike x :=
  ⟨hxy.waiting.symm, hxy.requests.symm, hxy.offered.symm⟩

/-- No event looks at the channel for anything but the reader. -/
lemma after (hxy : x.Alike y) (event : Event) : (x.after event).Alike (y.after event) := by
  cases event with
  | start order store d =>
      rcases order with _ | order
      · exact hxy
      · simp only [Exchange.after]
        split
        · exact hxy.delivered _
        · exact ⟨by rw [hxy.waiting], by rw [hxy.requests], hxy.offered⟩
  | reply place reply =>
      simp only [Exchange.after, ← hxy.waiting]
      split
      case h_1 => exact hxy
      case h_2 order _ =>
        have herased : Alike { x with waiting := x.waiting.eraseIdx place }
            { y with waiting := x.waiting.eraseIdx place } :=
          ⟨rfl, hxy.requests, hxy.offered⟩
        exact herased.delivered (order.finish reply)
  | take => exact ((take x).trans hxy).trans (take y).symm

end Alike

/-- The events that are none of the reader's. -/
def ofRuns (events : List Event) : List Event :=
  events.filter fun
    | .take => false
    | _ => true

/-- The reader and the room of the channel make no difference to the runs. -/
lemma Alike.run (hxy : x.Alike y) (events : List Event) :
    (x.run events).Alike (y.run (ofRuns events)) := by
  induction events generalizing x y with
  | nil => exact hxy
  | cons event rest ih =>
      cases event with
      | start | reply => exact ih (hxy.after _)
      | take => exact ih ((Alike.take x).trans hxy)

/-! ### Whole dispatches -/

/-- The events of a dispatch with nothing in between, at a time when some orders wait. -/
def dispatch (waiting : ℕ) (order : Order) (store : Store) (d : Document)
    (client : Request → Reply) : List Event :=
  .start order store d ::
    match order.start store d with
    | .finished _ => []
    | .waiting request => [.reply waiting (client request)]

/-- What such a dispatch does, the channel being its sink. -/
lemma run_dispatch (x : Exchange) (order : Order) (store : Store) (d : Document)
    (client : Request → Reply) :
    x.run (dispatch x.waiting.length order store d client) =
      { x.delivered (order.run store d client).2 with
        requests := x.requests ++ (order.run store d client).1.toList } := by
  rcases hstart : order.start store d with reports | request
  · simp [run, dispatch, after, Order.run, hstart, delivered]
  · simp [run, dispatch, after, Order.run, hstart, delivered, List.eraseIdx_append_of_length_le]

/-- What there is to say of the runs around a channel with room for `k` reports, after any
events. -/
structure Conveys (k : ℕ) (events : List Event) (x : Exchange) : Prop where
  /-- Never do more than `k` reports wait. -/
  length_le : x.channel.queue.length ≤ k
  length_le_of_offer : ∀ offer ∈ x.offers, offer.before.queue.length ≤ k
  /-- The reports that were taken and those that wait are all that were offered, except for those
  that were offered while `k` reports waited. -/
  conveyed : x.taken ++ x.channel.queue =
    (x.offers.filter fun offer => offer.before.queue.length ≠ k).map (·.report)
  /-- Neither the room of the channel nor the reader changes what is requested and offered. -/
  same : ∀ room others, ofRuns others = ofRuns events →
    ((opened room).run others).requests = x.requests ∧
      ((opened room).run others).offered = x.offered
  /-- A further dispatch ends, with the reports that it would offer any sink. -/
  dispatched : ∀ (order : Order) (store : Store) (d : Document) (client : Request → Reply),
    ∃ request reports next, order.run store d client = (request, reports) ∧
      x.run (dispatch x.waiting.length order store d client) = next ∧
      order.dispatch store d client ReportChannel.sink x.channel = (request, next.channel) ∧
      next.requests = x.requests ++ request.toList ∧ next.offered = x.offered ++ reports ∧
      next.waiting = x.waiting ∧ next.taken = x.taken

end Exchange

/-- **Channels.** Reports reach the reader in the order in which they are offered, and only those
are lost that find the channel full. That changes nothing for the runs that offer them. -/
theorem channel_conveys {k : ℕ} (hk : 0 < k) (events : List Exchange.Event) :
    ((Exchange.opened k).run events).Conveys k events := by
  have hbalanced : ((Exchange.opened k).run events).Balanced k :=
    (Exchange.Balanced.opened k).run hk events
  refine ⟨hbalanced.holds.length_le, fun offer hoffer => (hbalanced.met offer hoffer).length_le,
    hbalanced.conveyed, fun room others hothers => ?_, fun order store d client => ?_⟩
  · have hopened : (Exchange.opened room).Alike (Exchange.opened k) := ⟨rfl, rfl, rfl⟩
    have hother := hopened.run others
    rw [hothers] at hother
    have halike := hother.trans ((Exchange.Alike.refl (Exchange.opened k)).run events).symm
    exact ⟨halike.requests, halike.offered⟩
  · exact ⟨_, _, _, rfl, Exchange.run_dispatch _ order store d client, rfl, rfl,
      Exchange.offered_delivered _ _, rfl, rfl⟩

/-- A success without a body. -/
def accepting (_ : Request) : Reply := .response ⟨204, [], []⟩

lemma outcomeOf_accepting (r : Request) : outcomeOf (accepting r) = .ok (.str "") := by
  have hjson : Response.isJson ⟨204, [], []⟩ = false := by decide +kernel
  simp [accepting, outcomeOf, Response.decode, hjson, Response.text, Response.isSuccess, Except.map]

lemma run_saving : ∃ r, saving.order.run [] savingDocument accepting =
    (some r, [Action.dataReport (.str ""), ⟨.info, .str "Saved"⟩]) := by
  have hstart : ∃ r, saving.order.start [] savingDocument = .waiting r := ⟨_, rfl⟩
  obtain ⟨r, hstart⟩ := hstart
  exact ⟨r, by simp only [Order.run, hstart, Order.finish, outcomeOf_accepting]; rfl⟩

/-- Two reports are offered to a channel for one, before the reader comes. -/
def savedOnce : List Exchange.Event :=
  Exchange.dispatch 0 saving.order [] savingDocument accepting ++ [.take, .take]

theorem channel_conveys_savedOnce :
    0 < 1 ∧ ((Exchange.opened 1).run savedOnce).Conveys 1 savedOnce ∧
      ((Exchange.opened 1).run savedOnce).offered =
        [Action.dataReport (.str ""), ⟨.info, .str "Saved"⟩] ∧
      ((Exchange.opened 1).run savedOnce).taken = [Action.dataReport (.str "")] := by
  obtain ⟨r, hrun⟩ := run_saving
  have hdispatch : (Exchange.opened 1).run savedOnce =
      Exchange.run
        { (Exchange.opened 1).delivered [Action.dataReport (.str ""), ⟨.info, .str "Saved"⟩] with
          requests := [r] } [.take, .take] := by
    have hsaved := Exchange.run_dispatch (.opened 1) saving.order [] savingDocument accepting
    rw [hrun] at hsaved
    exact List.foldl_append.trans (congrArg (Exchange.run · [.take, .take]) hsaved)
  refine ⟨Nat.one_pos, channel_conveys Nat.one_pos savedOnce, ?_, ?_⟩ <;>
    rw [hdispatch] <;> rfl

end LivePage
