/-
Paths in two parts. A path with a point in it is followed by way of what its first part
reaches. Objects that pass inspection as bindings reach the same as the bindings that
are read from them.

* `segments_append`: the segments of two paths with a point between them;
* `Composes`: what a path reaches, said of its two parts;
* `IsReadAs`: an object is read as a binding that reaches the same;
* `paths_compose`: the two together.
-/
import LivePage.Proofs.Inspection
import LivePage.Proofs.ReadBack
import LivePage.Proofs.Reaching

namespace LivePage

/-! ### Paths with a point -/

lemma segments_append (p q : String) :
    segments (p ++ "." ++ q) = segments p ++ segments q := by
  have hchars : (p ++ "." ++ q).toList = p.toList ++ '.' :: q.toList := by
    simp [String.toList_append]
  have hsplit := List.splitOnP_append_cons (p := (· == '.')) p.toList q.toList (beq_self_eq_true _)
  rw [segments, segments, segments, hchars, ← List.map_append]
  exact congrArg _ hsplit

lemma segments_ne_nil (p : String) : segments p ≠ [] := by
  simp [segments, List.splitOn, List.splitOnP_ne_nil]

lemma pathSteps_of_ne {p : String} (hp : p ≠ "") : pathSteps p = segments p := if_neg hp

lemma pathSteps_append {p q : String} (hp : p ≠ "") (hq : q ≠ "") :
    pathSteps (p ++ "." ++ q) = pathSteps p ++ pathSteps q := by
  have hne : p ++ "." ++ q ≠ "" := by simp [hp]
  rw [pathSteps_of_ne hne, pathSteps_of_ne hp, pathSteps_of_ne hq, segments_append]

section

variable {store : Store} {component p q other : String} {v : Value}

/-- Nothing is inside a plain value. -/
lemma walk_plain (hv : Inspection.isScalar v) (hq : q ≠ "") : walk v (pathSteps q) = .ok none := by
  obtain ⟨segment, rest, hsegments⟩ := List.exists_cons_of_ne_nil (segments_ne_nil q)
  rw [pathSteps_of_ne hq, hsegments, walk]
  cases v <;> first | rfl | cases hv

/-- A value that is kept as a state is followed as it is. -/
lemma resolve_kept (hq : q ≠ "") :
    resolve [(other, v)] ⟨other, q⟩ = walk v (pathSteps q) := by
  have hread : Store.read [(other, v)] other = some v := by
    simp [Store.read, Members.get?_cons]
  by_cases hv : v = .null
  · subst hv
    rw [walk_plain rfl hq]
    exact Reference.resolve_of_unread fun state hstate => Option.some.inj (hstate.symm.trans hread)
  · exact Reference.resolve_eq_walk hread hv

/-- A path in two parts is two walks. -/
lemma resolve_append (hp : p ≠ "") (hq : q ≠ "") :
    resolve store ⟨component, p ++ "." ++ q⟩ =
      match resolve store ⟨component, p⟩ with
      | .error e => .error e
      | .ok none => .ok none
      | .ok (some v) => walk v (pathSteps q) := by
  by_cases hread : ∃ state, store.read component = some state ∧ state ≠ .null
  · obtain ⟨state, hread, hstate⟩ := hread
    rw [Reference.resolve_eq_walk hread hstate, Reference.resolve_eq_walk hread hstate,
      pathSteps_append hp hq]
    exact walk_append _ _ _
  · push Not at hread
    rw [Reference.resolve_of_unread hread, Reference.resolve_of_unread hread]

end

/-- What a path reaches, said of its two parts. -/
structure Composes (store : Store) (component p q : String) : Prop where
  /-- Behind what the first part reaches, the second one is followed, wherever that is kept. -/
  of_value : ∀ v other, resolve store ⟨component, p⟩ = .ok (some v) →
    resolve store ⟨component, p ++ "." ++ q⟩ = resolve [(other, v)] ⟨other, q⟩
  of_nothing : resolve store ⟨component, p⟩ = .ok none →
    resolve store ⟨component, p ++ "." ++ q⟩ = .ok none
  of_error : ∀ e, resolve store ⟨component, p⟩ = .error e →
    resolve store ⟨component, p ++ "." ++ q⟩ = .error e
  /-- Behind a plain value, null among them, there is nothing. -/
  of_plain : ∀ v, resolve store ⟨component, p⟩ = .ok (some v) → Inspection.isScalar v →
    resolve store ⟨component, p ++ "." ++ q⟩ = .ok none
  /-- Null at the end is reached like any value. -/
  null_iff : resolve store ⟨component, p ++ "." ++ q⟩ = .ok (some .null) ↔
    ∃ v, resolve store ⟨component, p⟩ = .ok (some v) ∧ v.Leads (pathSteps q) .null

lemma composes {p q : String} (store : Store) (component : String) (hp : p ≠ "") (hq : q ≠ "") :
    Composes store component p q where
  of_value v other hv := by rw [resolve_append hp hq, hv, resolve_kept hq]
  of_nothing hnothing := by rw [resolve_append hp hq, hnothing]
  of_error e he := by rw [resolve_append hp hq, he]
  of_plain v hv hplain := by
    rw [resolve_append hp hq, hv]
    exact walk_plain hplain hq
  null_iff := by
    rw [resolve_append hp hq]
    rcases resolve store ⟨component, p⟩ with e | _ | v <;> simp [Value.walk_eq_ok_some_iff]

/-! ### Bindings and objects -/

/-- An object is read as a binding, and reaches what that does. -/
def IsReadAs (members : Members Value) (b : Binding) : Prop :=
  Binding.read (.obj members) = .ok b ∧ ∀ store, resolveMembers store members = resolve store b

open Grammar in
/-- An object that names a component, and a path if it has one, is read as the binding for which it
is taken unchecked. -/
lemma exists_isReadAs {members : Members Value} (hcomponent : Required members "component" IsText)
    (hpath : Optional members "path" IsText) : ∃ b, IsReadAs members b := by
  obtain ⟨_, hget, component, rfl⟩ := hcomponent
  rw [Textual.lit_string] at hget
  suffices h : ∃ path, Reading.bindingPath [] members = .ok path ∧
      Binding.ofMembers? members = some ⟨component, path⟩ by
    obtain ⟨path, hread, htaken⟩ := h
    refine ⟨⟨component, path⟩, ?_, fun store => ?_⟩
    · have hbinding : Reading.binding [] (.obj members) = .ok ⟨component, path⟩ :=
        Reading.binding_eq_ok_iff.mpr ⟨Reading.required_of_get? hget Reading.text_str, hread⟩
      rw [Binding.read, hbinding]
      rfl
    · rw [resolveMembers, htaken]
  rcases hpathGet : members.get? "path" with _ | v
  · exact ⟨"", by simp [Reading.bindingPath, hpathGet],
      by simp [Binding.ofMembers?, hget, hpathGet]⟩
  · by_cases hv : v = .null
    · subst hv
      refine ⟨"", by simp [Reading.bindingPath, Reading.path, hpathGet], ?_⟩
      simp [Binding.ofMembers?, hget, hpathGet, Value.isTruthy]
    · obtain ⟨path, rfl⟩ := hpath v hpathGet hv
      refine ⟨path, by simp [Reading.bindingPath, Reading.path, Reading.text, hpathGet], ?_⟩
      simp [Binding.ofMembers?, hget, hpathGet]

/-- **Paths in two parts.** What a path with a point in it reaches is what its second part reaches
behind what its first part does. What an object reaches that passes inspection as a binding is what
the binding reaches that is read from it. -/
theorem paths_compose :
    (∀ (store : Store) (component p q : String), p ≠ "" → q ≠ "" →
      Composes store component p q) ∧
    ∀ (place : Location) (members : Members Value),
      Inspection.payloadEntry place (.obj members) = [] → ∃ b, IsReadAs members b := by
  refine ⟨fun store component p q hp hq => composes store component hp hq,
    fun place members hinspect => ?_⟩
  cases Inspection.payloadEntry_eq_nil_iff.mp hinspect with
  | binding hcomponent hpath => exact exists_isReadAs hcomponent hpath

/-- A path to null, and an object with null for its path. -/
theorem paths_compose_profile :
    let store : Store := [("profile", .obj [("address", .obj [("city", .null)])])]
    let members : Members Value := [("component", .str "profile"), ("path", .null)]
    ("address" ≠ "" ∧ "city" ≠ "" ∧ Composes store "profile" "address" "city" ∧
      resolve store ⟨"profile", "address" ++ "." ++ "city"⟩ = .ok (some .null)) ∧
    Inspection.payloadEntry [] (.obj members) = [] ∧ ∃ b, IsReadAs members b := by
  intro store members
  have haddress : "address" ≠ "" := by decide
  have hcity : "city" ≠ "" := by decide
  have haccepted : Inspection.payloadEntry [] (.obj members) = [] := rfl
  have hnull : resolve store ⟨"profile", "address" ++ "." ++ "city"⟩ = .ok (some .null) := by
    rfl
  exact ⟨⟨haddress, hcity, paths_compose.1 store _ _ _ haddress hcity, hnull⟩, haccepted,
    paths_compose.2 [] members haccepted⟩

end LivePage
