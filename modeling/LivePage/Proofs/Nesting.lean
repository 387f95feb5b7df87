/-
How deep the parts of a value lie, and when a limit admits a value.

* `Value.height`: the number of containers around the deepest part, none for a
  plain value and none for an empty container;
* `Value.Inside`: a part, with the number of containers around it;
* `Value.Throughout`: a property of all parts of a value;
* `height_le_iff`: the height is the least bound on the depths of the parts;
* `checkDepth_eq_ok_iff`: a limit admits the values no part of which lies
  deeper;
* `NoHigher`, `height_obj_le`: an object whose members are each no higher than
  some member of another object is no higher than that one.
-/
import LivePage.Json.Limits
import LivePage.Proofs.ValueInduction

namespace LivePage

variable {τ : Type}

namespace Value

mutual

/-- The number of containers around the deepest part of a value. -/
def height : Value τ → ℕ
  | .arr items => heightOfItems items
  | .obj members => heightOfMembers members
  | _ => 0
  termination_by structural v => v

/-- The height of a list that holds some elements. -/
def heightOfItems : List (Value τ) → ℕ
  | [] => 0
  | v :: rest => max (v.height + 1) (heightOfItems rest)
  termination_by structural items => items

/-- The height of an object that holds some members. -/
def heightOfMembers : List (τ × Value τ) → ℕ
  | [] => 0
  | (_, v) :: rest => max (v.height + 1) (heightOfMembers rest)
  termination_by structural members => members

end

/-- A part of a value, and the number of containers of the value around it. -/
inductive Inside : ℕ → Value τ → Value τ → Prop
  | self (v : Value τ) : Inside 0 v v
  | item {d : ℕ} {part v : Value τ} {items : List (Value τ)} (hv : v ∈ items)
      (h : Inside d part v) : Inside (d + 1) part (.arr items)
  | member {d : ℕ} {part : Value τ} {m : τ × Value τ} {members : List (τ × Value τ)}
      (hm : m ∈ members) (h : Inside d part m.2) : Inside (d + 1) part (.obj members)

/-! ### Properties of all parts -/

/-- A property of all parts of a value. -/
def Throughout (P : Value τ → Prop) (v : Value τ) : Prop :=
  ∀ depth part, Inside depth part v → P part

section

variable {P Q : Value τ → Prop} {v : Value τ} {items : List (Value τ)}
  {members : Members (Value τ) τ}

lemma Throughout.self (h : Throughout P v) : P v := h 0 v (.self v)

lemma Throughout.mono (h : Throughout P v) (hPQ : ∀ part, P part → Q part) : Throughout Q v :=
  fun depth part hpart => hPQ part (h depth part hpart)

lemma Throughout.item (h : Throughout P (.arr items)) (hv : v ∈ items) : Throughout P v :=
  fun depth part hpart => h (depth + 1) part (.item hv hpart)

lemma Throughout.member {m : τ × Value τ} (h : Throughout P (.obj members)) (hm : m ∈ members) :
    Throughout P m.2 :=
  fun depth part hpart => h (depth + 1) part (.member hm hpart)

lemma throughout_arr_iff :
    Throughout P (.arr items) ↔ P (.arr items) ∧ ∀ v ∈ items, Throughout P v := by
  refine ⟨fun h => ⟨h.self, fun v hv => h.item hv⟩, ?_⟩
  rintro ⟨hself, hitems⟩ _ _ (_ | ⟨hv, hpart⟩)
  · exact hself
  · exact hitems _ hv _ _ hpart

lemma throughout_obj_iff :
    Throughout P (.obj members) ↔ P (.obj members) ∧ ∀ m ∈ members, Throughout P m.2 := by
  refine ⟨fun h => ⟨h.self, fun m hm => h.member hm⟩, ?_⟩
  rintro ⟨hself, hmembers⟩ _ _ (_ | _ | ⟨hm, hpart⟩)
  · exact hself
  · exact hmembers _ hm _ _ hpart

/-- A plain value has no part but itself. -/
lemma throughout_plain_iff (v : Value τ) (harr : ∀ items, v ≠ .arr items)
    (hobj : ∀ members, v ≠ .obj members) : Throughout P v ↔ P v := by
  refine ⟨Throughout.self, ?_⟩
  rintro hself _ _ (_ | _ | _)
  · exact hself
  · exact absurd rfl (harr _)
  · exact absurd rfl (hobj _)

end

/-! ### The height as a bound -/

lemma height_arr_le_iff {items : List (Value τ)} {n : ℕ} :
    height (.arr items) ≤ n ↔ ∀ v ∈ items, v.height + 1 ≤ n := by
  rw [height]
  induction items with
  | nil => simp [heightOfItems]
  | cons v rest ih => rw [heightOfItems, max_le_iff, ih, List.forall_mem_cons]

lemma height_obj_le_iff {members : List (τ × Value τ)} {n : ℕ} :
    height (.obj members) ≤ n ↔ ∀ m ∈ members, m.2.height + 1 ≤ n := by
  rw [height]
  induction members with
  | nil => simp [heightOfMembers]
  | cons m rest ih => rw [heightOfMembers, max_le_iff, ih, List.forall_mem_cons]

/-- Each value of some members is no higher than some value of others. -/
def NoHigher (members others : List (τ × Value τ)) : Prop :=
  ∀ m ∈ members, ∃ o ∈ others, m.2.height ≤ o.2.height

@[simp]
lemma noHigher_nil {others : List (τ × Value τ)} : NoHigher [] others := nofun

@[simp]
lemma noHigher_cons_iff {m : τ × Value τ} {members others : List (τ × Value τ)} :
    NoHigher (m :: members) others ↔
      (∃ o ∈ others, m.2.height ≤ o.2.height) ∧ NoHigher members others :=
  List.forall_mem_cons

@[simp]
lemma noHigher_append_iff {members more others : List (τ × Value τ)} :
    NoHigher (members ++ more) others ↔ NoHigher members others ∧ NoHigher more others :=
  List.forall_mem_append

lemma NoHigher.mono {members others more : List (τ × Value τ)} (h : NoHigher members others)
    (hmore : others ⊆ more) : NoHigher members more := by
  intro m hm
  obtain ⟨o, ho, hle⟩ := h m hm
  exact ⟨o, hmore ho, hle⟩

lemma height_obj_le {members others : List (τ × Value τ)} (h : NoHigher members others) :
    height (.obj members) ≤ height (.obj others) := by
  refine height_obj_le_iff.mpr fun m hm => ?_
  obtain ⟨o, ho, hle⟩ := h m hm
  calc
    m.2.height + 1 ≤ o.2.height + 1 := Nat.succ_le_succ hle
    _ ≤ height (.obj others) := height_obj_le_iff.mp le_rfl o ho

/-! ### The limit -/

lemma excessOfItems?_eq_none_iff {limit depth : ℤ} {items : List (Value τ)} :
    excessOfItems? limit depth items = none ↔
      ∀ v ∈ items, v.excessDepth? limit depth = none := by
  induction items with
  | nil => simp [excessOfItems?]
  | cons v rest ih => simp [excessOfItems?, ih]

lemma excessOfMembers?_eq_none_iff {limit depth : ℤ} {members : List (τ × Value τ)} :
    excessOfMembers? limit depth members = none ↔
      ∀ m ∈ members, m.2.excessDepth? limit depth = none := by
  induction members with
  | nil => simp [excessOfMembers?]
  | cons m rest ih => simp [excessOfMembers?, ih]

/-- A container that stands within the limit reaches below it just when something that it holds
does. -/
private lemma below_iff {α : Type} {held : List α} {size : α → ℕ} {top : ℕ} {limit depth : ℤ}
    (hd : depth ≤ limit) (htop : ∀ n, top ≤ n ↔ ∀ a ∈ held, size a + 1 ≤ n) :
    (∀ a ∈ held, depth + 1 + size a ≤ limit) ↔ depth + top ≤ limit := by
  have hroom := htop (limit - depth).toNat
  constructor
  · intro h
    have : top ≤ (limit - depth).toNat := hroom.mpr fun a ha => by
      have := h a ha
      omega
    omega
  · intro h a ha
    have := hroom.mp (by omega) a ha
    omega

/-- A value at some depth keeps to a limit exactly when its depth and its height together do. -/
theorem excessDepth?_eq_none_iff {limit depth : ℤ} {v : Value τ} :
    v.excessDepth? limit depth = none ↔ depth + v.height ≤ limit := by
  induction v using ind generalizing depth with
  | arr items ih =>
      by_cases hd : depth > limit
      · simp only [excessDepth?, hd, if_true, reduceCtorEq, false_iff]
        omega
      · simp only [excessDepth?, hd, if_false, excessOfItems?_eq_none_iff]
        rw [← below_iff (not_lt.mp hd) fun _ => height_arr_le_iff]
        exact forall₂_congr fun v hv => ih v hv
  | obj members ih =>
      by_cases hd : depth > limit
      · simp only [excessDepth?, hd, if_true, reduceCtorEq, false_iff]
        omega
      · simp only [excessDepth?, hd, if_false, excessOfMembers?_eq_none_iff]
        rw [← below_iff (not_lt.mp hd) fun _ => height_obj_le_iff]
        exact forall₂_congr fun m hm => ih m hm
  | _ => simp [excessDepth?, height]

end Value

/-- A limit admits a value that stands at some depth exactly when their sum is within it. -/
theorem Json.checkDepth_eq_ok_iff {limit depth : ℤ} {v : Value τ} :
    Json.checkDepth limit depth v = .ok () ↔ depth + v.height ≤ limit := by
  rw [← Value.excessDepth?_eq_none_iff, checkDepth]
  cases v.excessDepth? limit depth <;> simp

end LivePage
