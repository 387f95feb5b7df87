/-
The reports of a playground. All sessions that it has shown report to one log,
which is cleared when the text changes.

* `Playground.Move`, `Playground.after`: what can happen, in any order;
* `Playground.Account`: a ledger, and how much of it the log has forgotten;
* `Playground.sources`: the reports in the log, each with the session of its
  activation;
* `reports_of_shown_iff`: the log holds what it should exactly if no activation
  of another session than the one shown ends with reports.
-/
import LivePage.Json.Writer
import LivePage.Playground
import LivePage.Proofs.Reporting

namespace LivePage

namespace Playground

/-- What can happen in a playground next: new text, or a move on any of its sessions. -/
inductive Move
  | update (text : RawText)
  | load (name : String)
  | host (move : Host.Move)

/-- The playground after a move. -/
def after (p : Playground) : Move → Playground
  | .update text => (p.update text).2
  | .load name => (p.load name).2
  | .host move => { p with host := p.host.after move }

/-- The playground after some moves, one after the other. -/
def afterAll (p : Playground) (moves : List Move) : Playground := moves.foldl after p

lemma afterAll_host (p : Playground) (moves : List Host.Move) :
    p.afterAll (moves.map .host) = { p with host := p.host.afterAll moves } := by
  induction moves generalizing p with
  | nil => rfl
  | cons move rest ih =>
      rw [List.map_cons, afterAll, List.foldl_cons, ← afterAll, ih, Host.afterAll_cons]
      rfl

/-- An edit in the session shown is a move, or none. -/
lemma change_eq_afterAll (p : Playground) (id : String) (v : Value) :
    ∃ moves : List Host.Move, (p.change id v).2 = p.afterAll (moves.map .host) := by
  rw [change]
  rcases hshown : p.shown with _ | n
  · exact ⟨[], rfl⟩
  · refine ⟨[.change n id v], ?_⟩
    simp only [afterAll_host, hshown]
    rfl

/-- A click in the session shown is a run of moves. -/
lemma click_eq_afterAll (p : Playground) (id : String) :
    ∃ moves : List Host.Move, (p.click id).2 = p.afterAll (moves.map .host) := by
  rw [click]
  rcases hshown : p.shown with _ | n
  · exact ⟨[], rfl⟩
  · obtain ⟨moves, hmoves⟩ := p.host.click_eq_afterAll n id
    refine ⟨moves, ?_⟩
    simp only [afterAll_host, hmoves, hshown]

/-- A ledger beside a playground. -/
structure Account where
  ledger : Ledger
  /-- How many activations had ended when the text last changed. -/
  cleared : ℕ

namespace Account

def empty : Account := ⟨.empty, 0⟩

/-- The account after text is put into the editor. -/
def update (a : Account) (p : Playground) (text : RawText) : Account :=
  if p.text = some text then a else { a with cleared := a.ledger.ended.length }

/-- The account after a move, beside the playground before it. -/
def after (a : Account) (p : Playground) : Move → Account
  | .update text => a.update p text
  | .load name =>
    match Template.named? name with
    | some template => a.update p (Template.text template)
    | none => a
  | .host move => { a with ledger := a.ledger.after p.host move }

/-- The account after some moves. -/
def afterAll (a : Account) (p : Playground) : List Move → Account
  | [] => a
  | move :: rest => (a.after p move).afterAll (p.after move) rest

/-- The session of an activation. -/
def session (a : Account) (i : ℕ) : ℕ := (a.ledger.activations[i]?.map (·.session)).getD 0

/-- The reports of an activation, each with its session. -/
def reportsOf (a : Account) (network : List Delivery) (i : ℕ) : List (ℕ × Report) :=
  (a.ledger.block network i).map fun report => (a.session i, report)

/-- The activations that have ended since the text last changed. -/
def recent (a : Account) : List ℕ := a.ledger.ended.drop a.cleared

/-- The reports since the text last changed, each with the session of its activation. -/
def sources (a : Account) (network : List Delivery) : List (ℕ × Report) :=
  a.recent.flatMap (a.reportsOf network)

/-- All reports are of the session shown, so there are none when none is shown. -/
def Faithful (a : Account) (p : Playground) : Prop :=
  ∀ source ∈ a.sources p.host.network, p.shown = some source.1

/-- What is reported by the activations that a move ends is of the session shown. -/
def EndsShown (a : Account) (p : Playground) (move : Move) : Prop :=
  ∀ i ∈ (a.after p move).ledger.ended.drop a.ledger.ended.length,
    ∀ source ∈ (a.after p move).reportsOf p.host.network i, p.shown = some source.1

/-! ### Keeping an account -/

/-- An account is kept: its ledger agrees with the host, and the log holds what has been reported
since the text last changed. -/
structure Kept (a : Account) (p : Playground) (network : List Delivery) : Prop where
  network : p.host.network = network
  agrees : a.ledger.Agrees p.host []
  logs : a.ledger.Logs p.host [] a.cleared

variable {a : Account} {p : Playground} {network : List Delivery}

lemma Kept.map_sources (hkept : a.Kept p network) :
    (a.sources network).map Prod.snd = p.host.log := by
  rw [hkept.logs.2, hkept.network, sources, List.map_flatMap, List.nil_append]
  simp [reportsOf, recent]

/-- New text clears the log, and perhaps mounts a session. -/
lemma update_host {text : RawText} (hnew : p.text ≠ some text) :
    (p.update text).2.host = { p.host with log := [] } ∨
      ∃ d, (p.update text).2.host = (Host.mount { p.host with log := [] } d).2 := by
  rw [Playground.update, if_neg (by simpa using hnew)]
  rcases hload : p.loader.load (.text text) with ⟨_ | loaded, loader⟩
  · exact .inl (by simp [hload])
  · rcases houtcome : loaded.outcome with rejection | d
    · exact .inl (by simp [hload, houtcome, display])
    · exact .inr ⟨d, by simp [hload, houtcome, display]⟩

lemma Kept.update (hkept : a.Kept p network) (text : RawText) :
    (a.update p text).Kept (p.update text).2 network := by
  by_cases hsame : p.text = some text
  · rw [Account.update, if_pos hsame, Playground.update, if_pos (by simpa using hsame)]
    exact hkept
  · rw [Account.update, if_neg hsame]
    have hclear : a.ledger.Agrees { p.host with log := [] } [] := { hkept.agrees with }
    rcases update_host hsame with hhost | ⟨d, hhost⟩
    · refine ⟨hhost ▸ hkept.network, hhost ▸ hclear, le_rfl, ?_⟩
      rw [hhost, List.drop_length]
      rfl
    · refine ⟨hhost ▸ hkept.network, hhost ▸ hclear.mount d, le_rfl, ?_⟩
      rw [hhost, List.drop_length]
      rfl

lemma Kept.after (hkept : a.Kept p network) (move : Move) :
    (a.after p move).Kept (p.after move) network := by
  cases move with
  | update text => exact hkept.update text
  | load name =>
      rw [Account.after, Playground.after, load]
      rcases Template.named? name with _ | template
      · exact hkept
      · exact hkept.update (Template.text template)
  | host move =>
      have hstep := Ledger.after_step hkept.agrees move
      exact ⟨hstep.network.trans hkept.network, hstep.agrees, hkept.logs.after hkept.agrees move⟩

/-- New text ends no activation, and leaves nothing to be held against the log. -/
lemma faithful_update (text : RawText) (hfaithful : a.Faithful p) :
    (a.update p text).Faithful (p.update text).2 := by
  by_cases hsame : p.text = some text
  · rw [Account.update, if_pos hsame, Playground.update, if_pos (by simpa using hsame)]
    exact hfaithful
  · rw [Account.update, if_neg hsame, Faithful, sources, recent, List.drop_length]
    exact nofun

lemma update_ledger (text : RawText) : (a.update p text).ledger = a.ledger := by
  rw [Account.update]
  split <;> rfl

/-- **One move.** The log stays faithful exactly if the activations that end are of the session
shown. -/
lemma faithful_after_iff (hkept : a.Kept p network) (hfaithful : a.Faithful p) (move : Move) :
    (a.after p move).Faithful (p.after move) ↔ a.EndsShown p move := by
  cases move with
  | update text =>
      refine iff_of_true (faithful_update text hfaithful) ?_
      rw [EndsShown, Account.after, update_ledger, List.drop_length]
      exact nofun
  | load name =>
      rw [EndsShown, Account.after, Playground.after, load]
      rcases Template.named? name with _ | template
      · refine iff_of_true hfaithful ?_
        rw [List.drop_length]
        exact nofun
      · refine iff_of_true (faithful_update _ hfaithful) ?_
        rw [update_ledger, List.drop_length]
        exact nofun
  | host move =>
      have hstep := Ledger.after_step hkept.agrees move
      obtain ⟨recent, hended, -⟩ := hstep.log
      have hsame : ∀ i ∈ a.recent, (a.after p (.host move)).reportsOf p.host.network i =
          a.reportsOf p.host.network i := by
        intro i hi
        have hi := List.mem_of_mem_drop hi
        have hlt := hkept.agrees.lt_length (List.mem_append_left _ hi)
        rw [reportsOf, reportsOf, session, session, Account.after, hstep.same i hi,
          hstep.activations, List.getElem?_append_left hlt]
      have hrecent : (a.after p (.host move)).recent = a.recent ++ recent := by
        rw [Account.recent, Account.after, hended, List.drop_append_of_le_length hkept.logs.1]
        rfl
      rw [Faithful, Playground.after, sources, hrecent, hstep.network, List.flatMap_append,
        List.forall_mem_append, List.flatMap_congr hsame, EndsShown, Account.after, hended,
        List.drop_left]
      exact (and_iff_right hfaithful).trans List.forall_mem_flatMap

/-! ### Runs -/

lemma afterAll_append (a : Account) (p : Playground) (moves more : List Move) :
    a.afterAll p (moves ++ more) = (a.afterAll p moves).afterAll (p.afterAll moves) more := by
  induction moves generalizing a p with
  | nil => rfl
  | cons move rest ih => rw [List.cons_append, afterAll, afterAll, ih, Playground.afterAll,
      Playground.afterAll, List.foldl_cons]

lemma Kept.afterAll (hkept : a.Kept p network) (moves : List Move) :
    (a.afterAll p moves).Kept (p.afterAll moves) network := by
  induction moves generalizing a p with
  | nil => exact hkept
  | cons move rest ih => exact ih (hkept.after move)

lemma empty_kept (loader : Loader) (network : List Delivery) :
    Account.empty.Kept (ofLoader loader network) network :=
  ⟨rfl, Ledger.empty_agrees network, le_rfl, rfl⟩

end Account

/-- The playground after some moves, from no text. -/
def ofMoves (loader : Loader) (network : List Delivery) (moves : List Move) : Playground :=
  (ofLoader loader network).afterAll moves

/-- Its account. -/
def accountOf (loader : Loader) (network : List Delivery) (moves : List Move) : Account :=
  Account.empty.afterAll (ofLoader loader network) moves

lemma ofMoves_concat (loader : Loader) (network : List Delivery) (moves : List Move)
    (move : Move) :
    ofMoves loader network (moves ++ [move]) = (ofMoves loader network moves).after move :=
  List.foldl_append

lemma accountOf_concat (loader : Loader) (network : List Delivery) (moves : List Move)
    (move : Move) :
    accountOf loader network (moves ++ [move]) =
      (accountOf loader network moves).after (ofMoves loader network moves) move :=
  Account.afterAll_append ..

end Playground

open Playground in
/-- **The reports of a playground.** At any time the log holds the reports of the activations that
have ended since the text last changed, of whatever sessions. So they are all of the session shown
at any time exactly if no move ends an activation of another session that reports something. -/
theorem reports_of_shown_iff (loader : Loader) (network : List Delivery)
    (moves : List Playground.Move) :
    (∀ earlier, earlier <+: moves → (ofMoves loader network earlier).host.log =
      ((accountOf loader network earlier).sources network).map Prod.snd) ∧
    ((∀ earlier, earlier <+: moves →
        (accountOf loader network earlier).Faithful (ofMoves loader network earlier)) ↔
      ∀ earlier move, earlier ++ [move] <+: moves →
        (accountOf loader network earlier).EndsShown (ofMoves loader network earlier) move) := by
  have hkept (moves : List Playground.Move) :
      (accountOf loader network moves).Kept (ofMoves loader network moves) network :=
    (Account.empty_kept loader network).afterAll moves
  refine ⟨fun earlier _ => (hkept earlier).map_sources.symm, ?_⟩
  induction moves using List.reverseRecOn with
  | nil =>
      refine iff_of_true (fun earlier h => ?_) fun earlier move h => ?_
      · rw [List.prefix_nil.mp h]
        exact nofun
      · simp at h
  | append_singleton moves move ih =>
      simp only [List.prefix_concat_iff]
      constructor
      · rintro h earlier last (heq | hprefix)
        · obtain ⟨rfl, ⟨⟩⟩ := List.append_inj' heq rfl
          have hlater := h (earlier ++ [move]) (.inl rfl)
          rw [ofMoves_concat, accountOf_concat] at hlater
          exact (Account.faithful_after_iff (hkept earlier) (h earlier (.inr List.prefix_rfl))
            move).mp hlater
        · exact ih.mp (fun earlier hearlier => h earlier (.inr hearlier)) earlier last hprefix
      · intro h earlier hprefix
        have hbefore := ih.mpr fun earlier last hearlier => h earlier last (.inr hearlier)
        rcases hprefix with rfl | hprefix
        · rw [ofMoves_concat, accountOf_concat]
          exact (Account.faithful_after_iff (hkept moves) (hbefore moves List.prefix_rfl)
            move).mpr (h moves move (.inl rfl))
        · exact hbefore earlier hprefix

/-- The text of a document with one button, which logs. -/
def loggingText (id : String) : String :=
  Json.compact (.obj [("root", .obj [("id", .str id), ("type", .str "button"),
    ("text", .str "Log"), ("action", .obj [("type", .str "log")])])])

/-- A button is pressed, and its task runs when there is new text already. -/
def lateMoves : List Playground.Move :=
  [.update (loggingText "first"), .host (.press 0 "first"), .update (loggingText "second"),
    .host (.run 0)]

open Playground in
/-- The second session is shown, and the log holds a report of the first. -/
theorem late_report :
    (ofMoves (.ofSettings .default) [] lateMoves).shown = some 1 ∧
      ((accountOf (.ofSettings .default) [] lateMoves).sources []).map Prod.fst = [0] ∧
      (ofMoves (.ofSettings .default) [] lateMoves).host.log.length = 1 := by
  decide +kernel

end LivePage
