/-
Reports to the host, and where they go: a log that keeps all of them, or a
channel with room for some.

* `Sink`: a place for reports, which may refuse them;
* `deliver`: offers reports to a sink, whatever it refuses;
* `ReportLog`, `ReportChannel`: the two sinks.
-/
import LivePage.Value.Basic

namespace LivePage

inductive ReportKind
  | info
  | error
deriving DecidableEq

def ReportKind.text : ReportKind → String
  | .info => "info"
  | .error => "error"

/-- The kind that a word names. -/
def ReportKind.ofText? (word : String) : Option ReportKind :=
  [ReportKind.info, .error].find? fun kind => kind.text == word

structure Report where
  kind : ReportKind
  message : Value

/-- A place for reports with a state of its own. Offered a report, it has a next state, and
says whether it accepts the report. -/
structure Sink (σ : Type) where
  offer : σ → Report → σ × Bool

/-- Offers reports one after the other. A report that is refused stops nothing. -/
def Sink.deliver {σ : Type} (sink : Sink σ) (state : σ) (reports : List Report) : σ :=
  reports.foldl (fun state report => (sink.offer state report).1) state

/-! ### Logs -/

/-- Reports in the order of their arrival. -/
abbrev ReportLog := List Report

namespace ReportLog

/-- A log accepts every report. -/
def sink : Sink ReportLog where
  offer log report := (log ++ [report], true)

/-- A log that accepts only its first reports, but keeps the others as well. -/
def sinkUpTo (accepted : Nat) : Sink ReportLog where
  offer log report := (log ++ [report], log.length < accepted)

/-- The messages of a kind. -/
def messages (log : ReportLog) (kind : ReportKind) : List Value :=
  (log.filter fun report => report.kind == kind).map (·.message)

end ReportLog

/-! ### Channels -/

/-- Reports that wait for a reader, at most `room` of them if `room` is positive. -/
structure ReportChannel where
  room : Int
  queue : List Report

namespace ReportChannel

def empty (room : Int) : ReportChannel := ⟨room, []⟩

def isFull (c : ReportChannel) : Bool := 0 < c.room && c.room ≤ (c.queue.length : Int)

/-- A channel refuses reports while it is full. -/
def sink : Sink ReportChannel where
  offer c report :=
    if c.isFull then (c, false) else ({ c with queue := c.queue ++ [report] }, true)

/-- The report that has waited longest, if one waits. -/
def take? (c : ReportChannel) : Option (Report × ReportChannel) :=
  match c.queue with
  | [] => none
  | report :: rest => some (report, { c with queue := rest })

end ReportChannel

end LivePage
