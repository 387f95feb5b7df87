/-
Limits on nesting. A value that goes too deep is refused with one depth, which is told from the
limit alone: wherever its deep parts are, and however many of them, the first depth above the limit
is met first.

* `Value.eq_of_excessDepth?`: the depth that is met, if any;
* `Json.namedDepth`, `Json.checkDepth_eq_error_iff`: the depth that a refusal names;
* `validate_of_le`, `validate_toValue`: a document under other limits, and its written form;
* `Value.Limited`, `value_limited`: what a limit makes of values and of documents.
-/
import LivePage.Proofs.Rewriting

namespace LivePage

namespace Value

variable {limit depth found : ℤ} {items : List Value} {members : List (String × Value)} {v : Value}

/-! ### The depth that is met -/

lemma exists_of_excessOfItems? (h : excessOfItems? limit depth items = some found) :
    ∃ v ∈ items, v.excessDepth? limit depth = some found := by
  induction items with
  | nil => simp [excessOfItems?] at h
  | cons v rest ih =>
      simp only [excessOfItems?, Option.orElse_eq_orElse, Option.orElse_eq_or,
        Option.or_eq_some_iff] at h
      rcases h with hv | ⟨-, hrest⟩
      · exact ⟨v, List.mem_cons_self, hv⟩
      · obtain ⟨w, hw, hfound⟩ := ih hrest
        exact ⟨w, List.mem_cons_of_mem v hw, hfound⟩

lemma exists_of_excessOfMembers? (h : excessOfMembers? limit depth members = some found) :
    ∃ m ∈ members, m.2.excessDepth? limit depth = some found := by
  induction members with
  | nil => simp [excessOfMembers?] at h
  | cons m rest ih =>
      simp only [excessOfMembers?, Option.orElse_eq_orElse, Option.orElse_eq_or,
        Option.or_eq_some_iff] at h
      rcases h with hm | ⟨-, hrest⟩
      · exact ⟨m, List.mem_cons_self, hm⟩
      · obtain ⟨n, hn, hfound⟩ := ih hrest
        exact ⟨n, List.mem_cons_of_mem m hn, hfound⟩

/-- **The depth that is met** is the one of the value itself or the first one above the limit,
whatever else lies in the value. -/
theorem eq_of_excessDepth? (h : v.excessDepth? limit depth = some found) :
    found = if limit < depth then depth else limit + 1 := by
  induction v using ind generalizing depth with
  | arr items ih =>
      by_cases hd : depth > limit
      · simp only [excessDepth?, hd, if_true, Option.some.injEq] at h
        rw [if_pos hd, h]
      · simp only [excessDepth?, hd, if_false] at h
        obtain ⟨v, hv, hfound⟩ := exists_of_excessOfItems? h
        have hinside := ih v hv hfound
        split_ifs at hinside ⊢ <;> omega
  | obj members ih =>
      by_cases hd : depth > limit
      · simp only [excessDepth?, hd, if_true, Option.some.injEq] at h
        rw [if_pos hd, h]
      · simp only [excessDepth?, hd, if_false] at h
        obtain ⟨m, hm, hfound⟩ := exists_of_excessOfMembers? h
        have hinside := ih m hm hfound
        split_ifs at hinside ⊢ <;> omega
  | _ =>
      simp only [excessDepth?, Option.ite_none_right_eq_some, Option.some.injEq] at h
      rw [if_pos h.1, h.2]

end Value

/-! ### Refusals -/

namespace Json

variable {limit depth : ℤ} {v : Value}

/-- The depth that is named when a value at some depth is refused: its own when that is above the
limit already, and otherwise the first one above the limit. -/
def namedDepth (limit depth : ℤ) : ℤ := if limit < depth then depth else limit + 1

lemma checkDepth_eq_error_iff {cause : LimitError} :
    checkDepth limit depth v = .error cause ↔
      limit < depth + v.height ∧ cause = .tooDeep (namedDepth limit depth) limit := by
  rw [← not_le, ← checkDepth_eq_ok_iff, checkDepth]
  rcases hfound : v.excessDepth? limit depth with _ | found
  · simp
  · rw [namedDepth, ← Value.eq_of_excessDepth? hfound]
    simp [eq_comm]

end Json

variable {limit : ℤ} {v : Value} {d : Document}

/-- A document that is accepted under some limit is accepted, as the same document, under each
limit that its value keeps to. -/
lemma validate_of_le {other : ℤ} (h : validate limit v = .ok d) (hother : v.height ≤ other) :
    validate other v = .ok d :=
  validate_eq_ok_iff.mpr ⟨hother, (validate_eq_ok_iff.mp h).2⟩

/-- An accepted document is written no higher than the value that it was read from. -/
lemma height_toValue_le (h : validate limit v = .ok d) : d.toValue.height ≤ v.height := by
  obtain ⟨-, hlower, hread⟩ := validate_eq_ok_iff.mp h
  exact Reading.height_document_le hlower hread

/-- The written form of a document is read as that document under each limit that the value keeps
to from which the document was read. -/
lemma validate_toValue {other : ℤ} (h : validate limit v = .ok d) (hother : v.height ≤ other) :
    validate other d.toValue = .ok d := by
  rw [validate_toValue_eq h hother, d.renamed_string]

/-- What there is to say of a value and a limit on its nesting. -/
structure Value.Limited (v : Value) (limit : ℤ) : Prop where
  /-- A value keeps to the limit exactly if its depth and its height together do. -/
  admitted_iff : ∀ depth, Json.checkDepth limit depth v = .ok () ↔ depth + v.height ≤ limit
  refusal : ∀ depth cause, Json.checkDepth limit depth v = .error cause →
    cause = .tooDeep (Json.namedDepth limit depth) limit ∧
      cause.message =
        s!"JSON nesting depth {Json.namedDepth limit depth} exceeds maximum {limit}"
  /-- A value that goes too deep is refused as a document for that alone. -/
  refused : ∀ cause, Json.checkDepth limit 0 v = .error cause →
    validate limit v = .error (.limited cause)
  /-- A document that is accepted is accepted under all larger limits, as the same document. -/
  larger : ∀ d, validate limit v = .ok d → ∀ other, limit ≤ other → validate other v = .ok d
  /-- What is written of it keeps to each limit that the value keeps to. -/
  written : ∀ d, validate limit v = .ok d → ∀ other depth,
    Json.checkDepth other depth v = .ok () → Json.checkDepth other depth d.toValue = .ok ()
  /-- It is read again as the same document under each of these limits. -/
  rewritten : ∀ d, validate limit v = .ok d → ∀ other,
    Json.checkDepth other 0 v = .ok () → validate other d.toValue = .ok d

/-- **Limits on nesting.** A limit admits a value by its height, and what it refuses it refuses with
one depth; more room changes no document, and none needs more room once it is written. -/
theorem value_limited (v : Value) (limit : ℤ) : v.Limited limit where
  admitted_iff depth := Json.checkDepth_eq_ok_iff
  refusal depth cause hcheck := by
    obtain ⟨-, rfl⟩ := Json.checkDepth_eq_error_iff.mp hcheck
    exact ⟨rfl, rfl⟩
  refused cause hcheck := by rw [validate, hcheck]
  larger d haccepted other hle := by
    have hheight := (validate_eq_ok_iff.mp haccepted).1
    exact validate_of_le haccepted (hheight.trans hle)
  written d haccepted other depth hcheck := by
    have hle := height_toValue_le haccepted
    rw [Json.checkDepth_eq_ok_iff] at hcheck ⊢
    omega
  rewritten d haccepted other hcheck := by
    rw [Json.checkDepth_eq_ok_iff, zero_add] at hcheck
    exact validate_toValue haccepted hcheck

/-- The deepest part of `plainForm` is the name of a component, which lies in seven containers. -/
theorem value_limited_plainForm :
    (∃ d, validate 7 plainForm = .ok d ∧ validate 100 plainForm = .ok d) ∧
      validate 6 plainForm = .error (.limited (.tooDeep 7 6)) := by
  refine ⟨?_, (value_limited plainForm 6).refused _ (by decide +kernel)⟩
  have hok : (validate 7 plainForm).isOk := by decide +kernel
  rcases haccepted : validate 7 plainForm with r | d
  · rw [haccepted] at hok
    exact nomatch hok
  · exact ⟨d, rfl, (value_limited plainForm 7).larger d haccepted 100 (by decide)⟩

end LivePage
