/-
What is found wrong with a component does not depend on where the component
stands. The place of a defect is the place of the component and, behind it, the
steps from there to the defect.

* `Location.text_append`: a place in words is its beginning and the trail of the
  steps behind;
* `Inspection.Shifts`: an inspection whose defects go with the place, and how that
  is passed on by the ways to combine inspections;
* `Inspection.Shifts.messages_eq`: what is said at a place begins with the text of the
  place, and goes on in the same way everywhere;
* `Inspection.component_shifts`: components, by recursion through the children;
* `Inspection.reports_eq`: what is said of a component at a place is what is said
  of it anywhere, behind the text of the place.
-/
import LivePage.Proofs.Inspection

namespace LivePage

/-! ### Places in words -/

/-- A step as it shows behind a path. -/
def Part.trail : Part → String
  | .name key => "." ++ key
  | .index n => s!"[{n}]"

namespace Location

/-- Steps as they show behind a path. -/
def trail (steps : Location) : String := String.join (steps.map Part.trail)

lemma extend_of_ne_empty {path : String} (hpath : path ≠ "") (part : Part) :
    extend path part = path ++ part.trail := by
  cases part with
  | name key => simp [extend, Part.trail, hpath, String.append_assoc]
  | index n => simp [extend, Part.trail, String.append_assoc, toString]

lemma foldl_extend_of_ne_empty {path : String} (hpath : path ≠ "") (steps : Location) :
    steps.foldl extend path = path ++ trail steps := by
  induction steps generalizing path with
  | nil => simp [trail]
  | cons part rest ih =>
      have hnext : path ++ part.trail ≠ "" := by simp [hpath]
      rw [List.foldl_cons, extend_of_ne_empty hpath, ih hnext, String.append_assoc]
      simp [trail]

/-- **A place in words is its beginning and the trail of what follows.** -/
lemma text_append {place : Location} (hplace : place.text ≠ "") (steps : Location) :
    (place ++ steps).text = place.text ++ steps.trail := by
  rw [text, List.foldl_append, ← text, foldl_extend_of_ne_empty hplace]

end Location

/-! ### Inspections of what may stand anywhere -/

/-- A defect as it is placed when what was inspected stands at a place. -/
def Defect.below (place : Location) (d : Defect) : Defect := ⟨place ++ d.place, d.problem⟩

/-- A defect in words as they show behind the path of what was inspected. -/
def Defect.remark (d : Defect) : String := d.place.trail ++ " " ++ d.problem.text

lemma Defect.message_below {place : Location} (hplace : place.text ≠ "") (d : Defect) :
    (d.below place).message = place.text ++ d.remark := by
  simp only [message, below, remark, Location.text_append hplace, String.append_assoc,
    Textual.lit_string]

namespace Inspection

/-- An inspection whose defects go with the place at which it is made. -/
def Shifts (inspect : Location → List Defect) : Prop :=
  ∀ place steps, inspect (place ++ steps) = (inspect steps).map (Defect.below place)

section

variable {f g : Location → List Defect} {ms : Members Value} {key : String}
  {inspect : Location → Value → List Defect}

lemma shifts_nil : Shifts fun _ => [] := fun _ _ => rfl

lemma shifts_singleton (problem : Problem) : Shifts fun place => [⟨place, problem⟩] :=
  fun _ _ => rfl

lemma require_shifts (holds : Bool) (problem : Problem) :
    Shifts fun place => require holds place problem := by
  cases holds
  · exact shifts_singleton problem
  · exact shifts_nil

/-- **What an inspection says at a place is what it says anywhere**, behind the text of the
place. -/
lemma Shifts.messages_eq (hf : Shifts f) {place : Location} (hplace : place.text ≠ "") :
    (f place).map Defect.message = ((f []).map Defect.remark).map (place.text ++ ·) := by
  have hshift : f place = (f []).map (Defect.below place) := by simpa using hf place []
  rw [hshift, List.map_map, List.map_map]
  exact List.map_congr_left fun d _ => Defect.message_below hplace d

lemma Shifts.append (hf : Shifts f) (hg : Shifts g) : Shifts fun place => f place ++ g place := by
  intro place steps
  simp only [hf place steps, hg place steps, List.map_append]

/-- What is inspected at a field goes with the place of the field. -/
lemma Shifts.field (hf : Shifts f) (key : String) : Shifts fun place => f (place.field key) := by
  intro place steps
  have hfield : (place ++ steps).field key = place ++ steps.field key := List.append_assoc ..
  simp only [hfield, hf place]

lemma Shifts.element (hf : Shifts f) (n : ℕ) : Shifts fun place => f (place.element n) := by
  intro place steps
  have helement : (place ++ steps).element n = place ++ steps.element n := List.append_assoc ..
  simp only [helement, hf place]

lemma ofPresent_shifts_of (h : ∀ v, ms.get? key = some v → Shifts (inspect · v)) :
    Shifts fun place => ofPresent ms key (inspect place) := by
  intro place steps
  simp only [ofPresent]
  rcases hget : ms.get? key with _ | v
  · rfl
  · cases v
    case null => rfl
    all_goals exact h _ hget place steps

lemma ofPresent_shifts (h : ∀ v, Shifts (inspect · v)) :
    Shifts fun place => ofPresent ms key (inspect place) :=
  ofPresent_shifts_of fun v _ => h v

lemma textMember_shifts : Shifts fun place => textMember place ms key :=
  show Shifts fun place => ofPresent ms key fun v => require (isText v) (place.field key) .notText
    from ofPresent_shifts fun _ => (require_shifts _ _).field key

lemma wordMember_shifts (α : Type) [Vocabulary α] : Shifts fun place => wordMember α place ms key :=
  show Shifts fun place => ofPresent ms key fun v =>
      require (wordOf? α v).isSome (place.field key) (.notAmong (Vocabulary.words α))
    from ofPresent_shifts fun _ => (require_shifts _ _).field key

lemma flatMap_shifts {α : Type} {items : List α} {inspect : Location → α → List Defect}
    (h : ∀ a, Shifts (inspect · a)) : Shifts fun place => items.flatMap (inspect place) := by
  induction items with
  | nil => exact shifts_nil
  | cons a rest ih =>
      simp only [List.flatMap_cons]
      exact (h a).append ih

lemma mapMember_shifts (h : ∀ v, Shifts (inspect · v)) :
    Shifts fun place => mapMember place ms key inspect := by
  refine ofPresent_shifts fun v => ?_
  cases v
  case obj entries => exact flatMap_shifts fun m => ((h m.2).field m.1).field key
  all_goals exact (shifts_singleton .notObject).field key

lemma textMapMember_shifts : Shifts fun place => textMapMember place ms key :=
  mapMember_shifts fun _ => require_shifts _ _

end

/-! ### Actions, configurations and components -/

lemma payloadEntry_shifts (v : Value) : Shifts (payloadEntry · v) := by
  unfold payloadEntry
  split
  · exact shifts_nil
  · split
    · split
      · exact textMember_shifts
      · exact shifts_singleton _
    · exact shifts_singleton _

lemma action_shifts (v : Value) : Shifts (action · v) := by
  cases v with
  | obj ms =>
      exact ((((((((require_shifts _ _).field "type").append textMember_shifts).append
        (wordMember_shifts Method)).append textMapMember_shifts).append textMember_shifts).append
        textMember_shifts).append (mapMember_shifts payloadEntry_shifts))
  | _ => exact shifts_singleton _

lemma attributes_shifts (ms : Members Value) : Shifts (attributes · ms) :=
  ((((require_shifts _ _).field "id").append ((require_shifts _ _).field "type")).append
    (mapMember_shifts fun _ => require_shifts _ _)).append textMember_shifts

lemma requiredText_shifts (ms : Members Value) (key : String) : Shifts (requiredText · ms key) :=
  (require_shifts _ _).field key

lemma arrangement_shifts (ms : Members Value) : Shifts (arrangement · ms) :=
  ((wordMember_shifts Direction).append
    (ofPresent_shifts fun _ => (require_shifts _ _).field "gap")).append
    (wordMember_shifts Alignment)

lemma components_shifts {items : List Value} {n : ℕ} (h : ∀ v ∈ items, Shifts (component · v)) :
    Shifts (components · n items) := by
  induction items generalizing n with
  | nil => exact shifts_nil
  | cons v rest ih =>
      rw [List.forall_mem_cons] at h
      exact (h.1.element n).append (ih h.2)

lemma children_shifts {ms : Members Value}
    (h : ∀ items, ms.get? "children" = some (.arr items) → ∀ v ∈ items, Shifts (component · v)) :
    Shifts (children · ms) := by
  simp only [children_eq]
  refine ofPresent_shifts_of fun v hget => ?_
  cases v
  case arr items => exact components_shifts (h items hget)
  all_goals exact shifts_singleton _

/-- **The defects of a component go with its place.** -/
theorem component_shifts (v : Value) : Shifts (component · v) := by
  induction v using Value.treeInd with
  | other v hv =>
      cases v
      case obj ms => cases hv
      all_goals exact shifts_singleton _
  | obj ms ih =>
      simp only [component]
      refine (attributes_shifts ms).append ?_
      rcases (Members.get? ms "type").bind (wordOf? ComponentKind) with _ | kind
      · exact shifts_nil
      · cases kind with
        | container =>
            have hchildren : Shifts (children · ms) := children_shifts (ih "children")
            exact (arrangement_shifts ms).append (hchildren.field "children")
        | text => exact requiredText_shifts ms "text"
        | input => exact (textMember_shifts.append textMember_shifts).append textMember_shifts
        | button =>
            exact (requiredText_shifts ms "text").append
              (ofPresent_shifts fun v => (action_shifts v).field "action")

/-! ### What is said of a component -/

/-- What is said of a component that stands at a place. -/
def reports (place : Location) (v : Value) : List String :=
  (component place v).map Defect.message

/-- What is said of a component, behind the empty path. -/
def remarks (v : Value) : List String :=
  (component [] v).map fun d => d.place.trail ++ " " ++ d.problem.text

/-- **What is said of a component at a place is what is said of it anywhere, behind the text of the
place.** -/
theorem reports_eq {place : Location} (hplace : place.text ≠ "") (v : Value) :
    reports place v = (remarks v).map (place.text ++ ·) :=
  (component_shifts v).messages_eq hplace

/-- Nothing is said of a well-formed component, and only of one. -/
lemma reports_eq_nil_iff {place : Location} {v : Value} :
    reports place v = [] ↔ Grammar.IsComponent false v := by
  rw [reports, List.map_eq_nil_iff, component_eq_nil_iff]

end Inspection

end LivePage
