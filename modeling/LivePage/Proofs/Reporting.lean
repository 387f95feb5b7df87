/-
What a host requests and reports in a run of moves, whatever their order. Each
activation is seen with the store of its moment, makes at most one request, and
reports once, in one block.

* `Ledger.ofMoves`: the ledger of a run on a network;
* `Ledger.afterAll_agrees`, `Ledger.Logs.afterAll`: it agrees with the host, and the
  log consists of the blocks of the activations that have ended;
* `reports_in_blocks`: what is requested and reported.
-/
import LivePage.Proofs.Ledger

namespace LivePage

namespace Ledger

variable {l : Ledger} {h : Host} {network : List Delivery} {i : ℕ}

/-- The ledger of a run of moves on a network. -/
def ofMoves (network : List Delivery) (moves : List Host.Move) : Ledger :=
  empty.afterAll (.ofNetwork network) moves

lemma afterAll_append (l : Ledger) (h : Host) (moves more : List Host.Move) :
    l.afterAll h (moves ++ more) = (l.afterAll h moves).afterAll (h.afterAll moves) more := by
  induction moves generalizing l h with
  | nil => rfl
  | cons move rest ih => rw [List.cons_append, afterAll, afterAll, ih, Host.afterAll_cons]

lemma empty_agrees (network : List Delivery) : empty.Agrees (.ofNetwork network) [] where
  documents := by simp [empty]
  line := .nil
  held := by simp [Host.ofNetwork]
  distinct := .nil
  sent := rfl
  once := .nil
  complete := .nil
  settled := by simp [empty]

/-- The log holds the reports of the activations that have ended since some moment, in the order
in which they did, behind what it held then. -/
def Logs (l : Ledger) (h : Host) (start : ReportLog) (earlier : ℕ) : Prop :=
  earlier ≤ l.ended.length ∧
    h.log = start ++ (l.ended.drop earlier).flatMap (l.block h.network)

lemma Logs.after {start : ReportLog} {earlier : ℕ} (hlogs : l.Logs h start earlier)
    (hagrees : l.Agrees h []) (move : Host.Move) :
    (l.after h move).Logs (h.after move) start earlier := by
  obtain ⟨hle, hlog⟩ := hlogs
  have hstep := after_step hagrees move
  obtain ⟨recent, hended, hnew⟩ := hstep.log
  have hsame : (l.ended.drop earlier).flatMap ((l.after h move).block h.network) =
      (l.ended.drop earlier).flatMap (l.block h.network) :=
    List.flatMap_congr fun i hi => hstep.same i (List.mem_of_mem_drop hi)
  have hlength : earlier ≤ (l.ended ++ recent).length := by
    rw [List.length_append]
    omega
  refine ⟨hended ▸ hlength, ?_⟩
  rw [hended, hstep.network, List.drop_append_of_le_length hle, List.flatMap_append, hsame]
  calc
    (h.after move).log = h.log ++ recent.flatMap ((l.after h move).block h.network) := hnew
    _ = start ++ (l.ended.drop earlier).flatMap (l.block h.network) ++
          recent.flatMap ((l.after h move).block h.network) := by rw [hlog]
    _ = _ := List.append_assoc ..

/-! ### Runs -/

/-- **The ledger of a run agrees with the host.** -/
theorem afterAll_agrees (hagrees : l.Agrees h []) (moves : List Host.Move) :
    (l.afterAll h moves).Agrees (h.afterAll moves) [] := by
  induction moves generalizing l h with
  | nil => exact hagrees
  | cons move rest ih => exact ih (after_step hagrees move).agrees

lemma afterAll_network (hagrees : l.Agrees h []) (moves : List Host.Move) :
    (h.afterAll moves).network = h.network := by
  induction moves generalizing l h with
  | nil => rfl
  | cons move rest ih =>
      have hstep := after_step hagrees move
      rw [Host.afterAll_cons, ih hstep.agrees, hstep.network]

lemma afterAll_activations (hagrees : l.Agrees h []) (moves : List Host.Move) :
    (l.afterAll h moves).activations = l.activations ++ h.activations moves := by
  induction moves generalizing l h with
  | nil => simp [afterAll, Host.activations]
  | cons move rest ih =>
      have hstep := after_step hagrees move
      rw [afterAll, ih hstep.agrees, hstep.activations, Host.activations, List.append_assoc]

lemma Logs.afterAll {start : ReportLog} {earlier : ℕ} (hlogs : l.Logs h start earlier)
    (hagrees : l.Agrees h []) (moves : List Host.Move) :
    (l.afterAll h moves).Logs (h.afterAll moves) start earlier := by
  induction moves generalizing l h with
  | nil => exact hlogs
  | cons move rest ih => exact ih (hlogs.after hagrees move) (after_step hagrees move).agrees

lemma ended_prefix (hagrees : l.Agrees h []) (moves : List Host.Move) :
    l.ended <+: (l.afterAll h moves).ended := by
  induction moves generalizing l h with
  | nil => exact List.prefix_rfl
  | cons move rest ih =>
      have hstep := after_step hagrees move
      obtain ⟨recent, hended, -⟩ := hstep.log
      exact (hended ▸ List.prefix_append _ _).trans (ih hstep.agrees)

lemma Agrees.length_eq (hagrees : l.Agrees h []) :
    l.ended.length + h.line.length + h.held.length = l.activations.length := by
  have hwaiting : (l.waiting h).length = h.held.length := by
    rw [waiting, List.filterMap_length_eq_length]
    intro w hw
    obtain ⟨i, hi, -⟩ := hagrees.held w hw
    rw [hi, Option.isSome_some]
  have hcomplete := hagrees.complete.length_eq
  simp only [List.length_append, List.length_nil, List.length_range] at hcomplete
  have hline := hagrees.line.length_eq
  omega

/-- How the requests and the reports of a run of moves go back to its activations. -/
structure Accounts (network : List Delivery) (moves : List Host.Move) (l : Ledger) (h : Host) :
    Prop where
  /-- Activations are numbered as they begin, and seen as they begin. -/
  activations : l.activations = (Host.ofNetwork network).activations moves
  /-- What is requested is the request of an activation. -/
  requests : h.sent.map some = l.senders.map l.request?
  /-- No activation makes two requests. -/
  senders_nodup : l.senders.Nodup
  /-- An activation has made its request, if it has one, when it ends. -/
  sender_of_ended : ∀ i ∈ l.ended, (l.request? i).isSome → i ∈ l.senders
  /-- The request and the block of an activation are what its action asks for, with the store and
  the document of the session at its moment, and with the reply to its own request. -/
  yields : ∀ i (a : Activation), l.activations[i]? = some a →
    a.Yields (l.reply network i) (l.request? i) (l.block network i)
  /-- The log is made of the blocks of the activations that have ended. -/
  log : h.log = l.ended.flatMap (l.block network)
  /-- They stand in the order in which they end. -/
  ended_prefix : ∀ earlier, earlier <+: moves → (ofMoves network earlier).ended <+: l.ended
  /-- No activation ends twice. -/
  ended_nodup : l.ended.Nodup
  /-- Whatever has begun has ended, or is in line or held back. -/
  outstanding : l.ended.length + h.line.length + h.held.length = l.activations.length
  /-- When nothing is in line or held back, all activations have ended. -/
  complete : h.line = [] → h.held = [] → l.ended.Perm (List.range l.activations.length)

/-- What an activation gets for a reply has a name if it is a failure. -/
lemma named_reply (hnamed : ∀ delivery ∈ network, ∀ cause,
    delivery.reply = .failure cause → cause.name ≠ "") (l : Ledger) (i : ℕ)
    {cause : TransportFailure} (hreply : l.reply network i = .failure cause) :
    cause.name ≠ "" := by
  rw [reply] at hreply
  rcases hdelivery : (l.senders.idxOf? i).bind fun request => network[request]? with
    _ | delivery <;> rw [hdelivery] at hreply
  · cases hreply
  · obtain ⟨request, -, hrequest⟩ := Option.bind_eq_some_iff.mp hdelivery
    exact hnamed delivery (List.mem_of_getElem? hrequest) cause hreply

end Ledger

/-- **Requests and reports of a run.** In any order of moves, every activation makes its request
and its reports of the store as it was when it began, and its reports stand in the log once, in one
block, in the order in which activations end. -/
theorem reports_in_blocks {network : List Delivery}
    (hnamed : ∀ delivery ∈ network, ∀ cause, delivery.reply = .failure cause → cause.name ≠ "")
    (moves : List Host.Move) :
    (Ledger.ofMoves network moves).Accounts network moves
      ((Host.ofNetwork network).afterAll moves) := by
  have hempty := Ledger.empty_agrees network
  have hagrees := Ledger.afterAll_agrees hempty moves
  have hlogs : Ledger.empty.Logs (.ofNetwork network) [] 0 := ⟨le_rfl, rfl⟩
  obtain ⟨-, hlog⟩ := hlogs.afterAll hempty moves
  rw [Ledger.afterAll_network hempty, List.nil_append, List.drop_zero] at hlog
  refine
    { activations := Ledger.afterAll_activations hempty moves
      requests := hagrees.sent
      senders_nodup := hagrees.once
      sender_of_ended := hagrees.settled
      yields := fun i a ha => ?_
      log := hlog
      ended_prefix := ?_
      ended_nodup := hagrees.nodup.of_append_left
      outstanding := hagrees.length_eq
      complete := fun hline hheld => ?_ }
  · rw [Ledger.request?, Ledger.block, ha]
    exact a.yields fun cause => Ledger.named_reply hnamed (Ledger.ofMoves network moves) i
  · rintro earlier ⟨later, rfl⟩
    rw [Ledger.ofMoves, Ledger.ofMoves, Ledger.afterAll_append]
    exact Ledger.ended_prefix (Ledger.afterAll_agrees hempty earlier) later
  · have hcomplete := hagrees.complete
    have hlines := hagrees.line
    rw [hline, List.forall₂_nil_left_iff] at hlines
    rw [hlines, Ledger.waiting, hheld] at hcomplete
    simpa [Ledger.ofMoves] using hcomplete

/-- A document with a button that saves. -/
def savingPage : Document :=
  { savingDocument with root := .button ⟨"save", .absent, .absent⟩ "Save" (.given saving) }

/-- The replies to three requests, all of them held back. -/
def heldReplies : List Delivery :=
  [⟨.response ⟨200, [], Utf8.encode "first"⟩, true⟩,
    ⟨.response ⟨200, [], Utf8.encode "second"⟩, true⟩,
    ⟨.failure ⟨"ConnectError", ""⟩, true⟩]

/-- A button is pressed three times, and the last reply comes first. -/
def crossedPresses : List Host.Move :=
  [.mount savingPage, .press 0 "save", .press 0 "save", .press 0 "save", .run 0, .run 0, .run 0,
    .release 2, .release 1, .run 0, .run 0, .release 0, .run 0]

/-- The log of the three presses: the failure, and then two blocks of two reports. -/
theorem reports_of_crossedPresses :
    (∀ delivery ∈ heldReplies, ∀ cause, delivery.reply = .failure cause → cause.name ≠ "") ∧
      (Ledger.ofMoves heldReplies crossedPresses).Accounts heldReplies crossedPresses
        ((Host.ofNetwork heldReplies).afterAll crossedPresses) ∧
      (Ledger.ofMoves heldReplies crossedPresses).ended = [2, 1, 0] ∧
      ((Host.ofNetwork heldReplies).afterAll crossedPresses).log =
        [⟨.error, .str "ConnectError"⟩,
          ⟨.info, .obj [("ok", .bool true), ("data", .str "second")]⟩, ⟨.info, .str "Saved"⟩,
          ⟨.info, .obj [("ok", .bool true), ("data", .str "first")]⟩, ⟨.info, .str "Saved"⟩] := by
  have hnamed : ∀ delivery ∈ heldReplies, ∀ cause,
      delivery.reply = .failure cause → cause.name ≠ "" := by
    simp only [heldReplies, List.forall_mem_cons]
    refine ⟨nofun, nofun, ?_, nofun⟩
    rintro _ ⟨⟩
    decide
  exact ⟨hnamed, reports_in_blocks hnamed crossedPresses, by decide +kernel, rfl⟩

end LivePage
