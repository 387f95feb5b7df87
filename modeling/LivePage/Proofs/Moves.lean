/-
The single moves of a host, in any order. The tasks in line may run in any
order, and the replies that are held back may be let go in any order; what an
event of a viewing does is one such order.

* `Host.Move`, `Host.after`, `Host.afterAll`: the moves, and what they do;
* `Host.settle_eq_afterAll`: running all tasks in line is a run of moves;
* `Viewing.step_eq_afterAll`, `Viewing.run_eq_afterAll`: so is an event of a
  viewing, and all events together.
-/
import LivePage.Viewing
import Mathlib.Tactic

namespace LivePage

namespace Host

/-- What can happen on a host next. A move that fails changes nothing. -/
inductive Move
  | mount (d : Document)
  | change (n : ℕ) (id : String) (v : Value)
  | write (n : ℕ) (id : String) (changes : Members Value)
  | render (n : ℕ)
  | press (n : ℕ) (id : String)
  /-- Activates a button, and runs its task at once. -/
  | click (n : ℕ) (id : String)
  /-- Runs the task at a position in line. -/
  | run (position : ℕ)
  | release (request : ℕ)
  /-- Lets all replies go, and holds none back from here on. -/
  | unhold

/-- A host with other tasks in line. -/
def withLine (h : Host) (line : List Task) : Host := { h with line := line }

/-- The host after a move. -/
def after (h : Host) : Move → Host
  | .mount d => (h.mount d).2
  | .change n id v => (h.change n id v).2
  | .write n id changes => h.modify n (·.write id changes)
  | .render n => h.modify n Session.rendered
  | .press n id => (h.press n id).2
  | .click n id =>
    match h.activation n id false with
    | .ok task => (h.run task).1
    | .error _ => h
  | .run position =>
    match h.line[position]? with
    | some task => ((h.withLine (h.line.eraseIdx position)).run task).1
    | none => h
  | .release request => (h.release request).toOption.getD h
  | .unhold => h.unhold

/-- The host after some moves, one after the other. -/
def afterAll (h : Host) (moves : List Move) : Host := moves.foldl after h

lemma afterAll_cons (h : Host) (move : Move) (rest : List Move) :
    h.afterAll (move :: rest) = (h.after move).afterAll rest :=
  List.foldl_cons

lemma afterAll_append (h : Host) (moves more : List Move) :
    h.afterAll (moves ++ more) = (h.afterAll moves).afterAll more :=
  List.foldl_append

/-! ### Running the line -/

/-- A task runs without regard to the tasks in line. -/
lemma run_withLine (h : Host) (line : List Task) (task : Task) :
    (h.withLine line).run task = ((h.run task).1.withLine line, (h.run task).2) := by
  rcases task with ⟨n, pressed, ⟨_ | order, store⟩ | ⟨order, reply⟩⟩
  · rfl
  · simp only [run, withLine]
    split
    · rfl
    · split
      · rfl
      · simp only [send]
        split <;> rfl
  · rfl

/-- Running all tasks in line is running the first one again and again. -/
lemma settle_eq_afterAll (h : Host) :
    h.settle = h.afterAll (List.replicate h.line.length (.run 0)) := by
  suffices hline : ∀ (tasks : List Task) (h : Host),
      (h.withLine tasks).afterAll (List.replicate tasks.length (.run 0)) =
        tasks.foldl (fun h task => (h.run task).1) (h.withLine []) from (hline h.line h).symm
  intro tasks
  induction tasks with
  | nil => exact fun h => rfl
  | cons task rest ih =>
      intro h
      have hnext : (h.withLine (task :: rest)).after (.run 0) = (h.run task).1.withLine rest := by
        have hrun := congrArg Prod.fst (run_withLine h rest task)
        simpa [after, withLine] using hrun
      rw [List.length_cons, List.replicate_succ, afterAll_cons, hnext, ih, List.foldl_cons,
        run_withLine]

/-- A click is a run of moves: the tasks in line run before its own. -/
lemma click_eq_afterAll (h : Host) (n : ℕ) (id : String) :
    ∃ moves, (h.click n id).2 = h.afterAll moves := by
  refine ⟨List.replicate h.line.length (.run 0) ++ [.click n id], ?_⟩
  rw [afterAll_append, ← settle_eq_afterAll, afterAll_cons, after]
  simp only [click]
  cases h.settle.activation n id false <;> rfl

end Host

namespace Viewing

open Host

/-- What an event does by itself is a run of moves. -/
lemma handle_eq_afterAll (v : Viewing) (e : Event) :
    ∃ moves, (v.handle e).2.host = v.host.afterAll moves := by
  cases e with
  | change id value =>
      exact ⟨[.change v.current id value], rfl⟩
  | write id changes => exact ⟨[.write v.current id changes], rfl⟩
  | render => exact ⟨[.render v.current], rfl⟩
  | press id =>
      exact ⟨[.press v.current id], rfl⟩
  | click id =>
      exact click_eq_afterAll v.host v.current id
  | release request =>
      refine ⟨[.release request], ?_⟩
      cases hrelease : v.host.release request <;>
        simp [handle, hrelease, afterAll, after, Except.toOption]
  | drain =>
      by_cases hpending : v.host.pending v.current = 0
      · exact ⟨[.unhold], by simp [handle, drain, hpending, afterAll, after]⟩
      · refine ⟨.unhold :: List.replicate v.host.unhold.line.length (.run 0), ?_⟩
        rw [afterAll_cons, after, ← settle_eq_afterAll]
        simp [handle, drain, hpending]
  | remount =>
      rcases hsession : v.session? with _ | s
      · exact ⟨[], by simp [handle, remount, hsession, afterAll]⟩
      · exact ⟨[.mount s.document], by simp [handle, remount, hsession, afterAll, after]⟩

/-- **An event of a viewing is a run of moves.** -/
theorem step_eq_afterAll (v : Viewing) (e : Event) (isLazy : Bool) :
    ∃ moves, (v.step e isLazy).2.host = v.host.afterAll moves := by
  obtain ⟨moves, hmoves⟩ := v.handle_eq_afterAll e
  rcases hhandle : v.handle e with ⟨_ | answer, next⟩ <;> rw [hhandle] at hmoves
  · exact ⟨moves, by simp [step, hhandle, ← hmoves]⟩
  · cases isLazy with
    | true => exact ⟨moves, by simp [step, hhandle, ← hmoves]⟩
    | false =>
        refine ⟨moves ++ List.replicate next.host.line.length (.run 0), ?_⟩
        rw [afterAll_append, ← hmoves, ← settle_eq_afterAll]
        simp [step, hhandle]

/-- **Viewing a document is a run of moves**, whatever the events are. -/
theorem run_eq_afterAll (network : List Delivery) (d : Document) (events : List (Event × Bool)) :
    ∃ moves, (events.foldl (fun v (e, isLazy) => (v.step e isLazy).2) (start network d)).host =
      (ofNetwork network).afterAll moves := by
  suffices h : ∀ (v : Viewing) (earlier : List Move),
      v.host = (ofNetwork network).afterAll earlier →
      ∃ moves, (events.foldl (fun v (e, isLazy) => (v.step e isLazy).2) v).host =
        (ofNetwork network).afterAll moves from h (start network d) [.mount d] rfl
  induction events with
  | nil => exact fun v earlier hv => ⟨earlier, hv⟩
  | cons event rest ih =>
      intro v earlier hv
      obtain ⟨moves, hmoves⟩ := v.step_eq_afterAll event.1 event.2
      exact ih _ (earlier ++ moves) (by rw [hmoves, hv, afterAll_append])

end Viewing

end LivePage
