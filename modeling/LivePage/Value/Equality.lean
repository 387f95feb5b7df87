/-
Equalities of values. Values agree when they are the same number, text
or container, whatever the order of members and the kind of number:
`1`, `1.0` and `true` agree. Values are identical when nothing tells them
apart. They have the same shape when only the contents of their texts,
numbers and booleans do.

* `Value.agrees`: agreement;
* `Value.identical`: identity, as a test;
* `Value.sameShape`: equality of shapes.
-/
import LivePage.Value.Basic

namespace LivePage.Value

/-- Booleans as the integers `0` and `1`, and numbers as they are. -/
def numeric? : Value → Option (Int ⊕ Double)
  | .bool b => some (.inl (if b then 1 else 0))
  | .int n => some (.inl n)
  | .num x => some (.inr x)
  | _ => none

/-- Whether two values are the same number. -/
def sameNumber (v w : Value) : Bool :=
  match v.numeric?, w.numeric? with
  | some (.inl m), some (.inl n) => m == n
  | some (.inl m), some (.inr y) => y.toInt? == some m
  | some (.inr x), some (.inl n) => x.toInt? == some n
  | some (.inr x), some (.inr y) => x.sameNumber y
  | _, _ => false

mutual

/-- Whether two values agree: as numbers, as texts, element by element, or member by member
in any order. -/
def agrees : Value → Value → Bool
  | .null, w => w.isNull
  | .str s, w => w.str? == some s
  | .arr items, .arr others => agreeItems items others
  | .obj members, .obj others =>
    members.length == others.length && agreeMembers members others
  | .bool b, w => sameNumber (.bool b) w
  | .int n, w => sameNumber (.int n) w
  | .num x, w => sameNumber (.num x) w
  | _, _ => false
  termination_by structural v => v

def agreeItems : List Value → List Value → Bool
  | [], [] => true
  | v :: rest, w :: others => v.agrees w && agreeItems rest others
  | _, _ => false
  termination_by structural items => items

/-- Whether every member of the first object agrees with its namesake in the second. -/
def agreeMembers : List (String × Value) → List (String × Value) → Bool
  | [], _ => true
  | (key, v) :: rest, others =>
    (match List.lookup key others with
      | some w => v.agrees w
      | none => false) && agreeMembers rest others
  termination_by structural members => members

end

mutual

/-- Whether two values have the same kind, and containers the same elements or members up to
their shapes. -/
def sameShape : Value → Value → Bool
  | .null, .null | .bool _, .bool _ | .int _, .int _ | .num _, .num _ | .str _, .str _ => true
  | .arr items, .arr others => sameShapes items others
  | .obj members, .obj others =>
    members.length == others.length && sameMemberShapes members others
  | _, _ => false
  termination_by structural v => v

def sameShapes : List Value → List Value → Bool
  | [], [] => true
  | v :: rest, w :: others => v.sameShape w && sameShapes rest others
  | _, _ => false
  termination_by structural items => items

/-- Whether every member of the first object has a namesake of its shape in the second. -/
def sameMemberShapes : List (String × Value) → List (String × Value) → Bool
  | [], _ => true
  | (key, v) :: rest, others =>
    (match List.lookup key others with
      | some w => v.sameShape w
      | none => false) && sameMemberShapes rest others
  termination_by structural members => members

end

/-! ### Identity decides equality -/

variable {τ : Type} [DecidableEq τ]

mutual

/-- Whether two values are the same in every respect, the order of members included. -/
def identical : Value τ → Value τ → Bool
  | .null, .null => true
  | .bool b, .bool c => b == c
  | .int m, .int n => m == n
  | .num x, .num y => x == y
  | .str s, .str t => s == t
  | .arr items, .arr others => identicalItems items others
  | .obj members, .obj others => identicalMembers members others
  | _, _ => false
  termination_by structural v => v

def identicalItems : List (Value τ) → List (Value τ) → Bool
  | [], [] => true
  | v :: rest, w :: others => v.identical w && identicalItems rest others
  | _, _ => false
  termination_by structural items => items

def identicalMembers : List (τ × Value τ) → List (τ × Value τ) → Bool
  | [], [] => true
  | (j, v) :: rest, (k, w) :: others => j == k && v.identical w && identicalMembers rest others
  | _, _ => false
  termination_by structural members => members

end

mutual

theorem identical_iff_eq (v w : Value τ) : v.identical w = true ↔ v = w := by
  cases v <;> cases w <;> simp [identical, identicalItems_iff_eq, identicalMembers_iff_eq]
  termination_by structural v

theorem identicalItems_iff_eq (vs ws : List (Value τ)) : identicalItems vs ws = true ↔ vs = ws := by
  cases vs <;> cases ws <;> simp [identicalItems, identical_iff_eq, identicalItems_iff_eq]
  termination_by structural vs

theorem identicalMembers_iff_eq (vs ws : List (τ × Value τ)) :
    identicalMembers vs ws = true ↔ vs = ws := by
  match vs, ws with
  | [], [] | [], _ :: _ | _ :: _, [] => simp [identicalMembers]
  | (j, v) :: rest, (k, w) :: others =>
    simp [identicalMembers, identical_iff_eq v w, identicalMembers_iff_eq rest others]
  termination_by structural vs

end

instance : DecidableEq (Value τ) := fun v w => decidable_of_iff _ (identical_iff_eq v w)

end LivePage.Value
