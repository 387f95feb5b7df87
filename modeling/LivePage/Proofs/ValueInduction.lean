/-
Two ways to do induction over values.

* `Value.ind`: through the elements of lists and the members of objects;
* `Value.treeInd`: from an object straight to the elements of the lists among
  its members, which is how trees of components grow.
-/
import LivePage.Value.Basic
import Mathlib.Tactic

namespace LivePage

/-- What is found under a name is one of the members. -/
lemma Members.mem_of_get? {α τ : Type} [DecidableEq τ] {ms : Members α τ} {key : τ} {a : α}
    (h : ms.get? key = some a) : (key, a) ∈ ms := by
  induction ms with
  | nil => simp [get?_nil] at h
  | cons m rest ih =>
      obtain ⟨k, b⟩ := m
      rw [get?_cons] at h
      split at h
      · simp_all
      · exact List.mem_cons_of_mem _ (ih h)

namespace Value

variable {τ : Type}

/-- The induction principle of values: a property holds of every value once it holds of plain
values and is inherited from elements and members. -/
@[elab_as_elim]
theorem ind {P : Value τ → Prop} (null : P .null) (bool : ∀ b, P (.bool b)) (int : ∀ n, P (.int n))
    (num : ∀ x, P (.num x)) (str : ∀ s, P (.str s))
    (arr : ∀ items : List (Value τ), (∀ v ∈ items, P v) → P (.arr items))
    (obj : ∀ members : Members (Value τ) τ, (∀ m ∈ members, P m.2) → P (.obj members))
    (v : Value τ) : P v :=
  Value.rec (motive_1 := P) (motive_2 := fun items => ∀ v ∈ items, P v)
    (motive_3 := fun members => ∀ m ∈ members, P m.2) (motive_4 := fun m => P m.2)
    null bool int num str (fun items ih => arr items ih) (fun members ih => obj members ih)
    (by simp) (fun _ _ ihh iht => List.forall_mem_cons.mpr ⟨ihh, iht⟩)
    (by simp) (fun _ _ ihh iht => List.forall_mem_cons.mpr ⟨ihh, iht⟩)
    (fun _ _ ih => ih) v

/-- Induction over trees of objects: a property holds of every value once it holds of whatever is
no object, and an object inherits it from the elements of the lists among its members. -/
@[elab_as_elim]
theorem treeInd [DecidableEq τ] {P : Value τ → Prop} (other : ∀ v : Value τ, v.obj? = none → P v)
    (obj : ∀ ms : Members (Value τ) τ,
      (∀ key items, ms.get? key = some (.arr items) → ∀ v ∈ items, P v) → P (.obj ms))
    (v : Value τ) : P v := by
  -- the elements of a list are two levels below the object, so both levels are carried along
  suffices h : P v ∧ ∀ items, v = .arr items → ∀ w ∈ items, P w from h.1
  induction v using ind with
  | arr items ih =>
      refine ⟨other _ rfl, ?_⟩
      rintro _ ⟨⟩ w hw
      exact (ih w hw).1
  | obj members ih =>
      refine ⟨obj members fun key items hget => ?_, by simp⟩
      exact (ih _ (Members.mem_of_get? hget)).2 items rfl
  | _ => exact ⟨other _ rfl, by simp⟩

end Value

end LivePage
