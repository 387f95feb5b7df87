/-
Following bindings into the store. A path leads from the state of a
component through the members of objects and the elements of lists; a
binding that leads nowhere reaches nothing, which is not the same as
reaching null.

* `resolve`: the value that a binding reaches;
* `evaluate`: a payload with its bindings followed;
* `walk_append`: a walk along two lists of steps is one walk after the
  other.
-/
import LivePage.Json.Error
import LivePage.Store
import LivePage.Text.Digit

namespace LivePage

/-- An index with more digits than an integer may have. -/
structure HugeIndex where
  digits : Nat
deriving DecidableEq

def HugeIndex.message (e : HugeIndex) : String := Json.hugeIntegerText e.digits

/-- What a binding reaches: a value, or nothing. -/
abbrev Reached := Except HugeIndex (Option Value)

/-- The segments of a path, which stand between its points. -/
def segments (path : String) : List String := (path.toList.splitOn '.').map String.ofList

/-- One step: to the member of an object under a name, or to the element of a list under the
decimal digits of its index. -/
def step (v : Value) (segment : String) : Reached :=
  match v with
  | .obj members => .ok (Members.get? members segment)
  | .arr items =>
    let digits := segment.toList
    if !isDecimal digits then .ok none
    else if digits.length > Json.maxDigits then .error ⟨digits.length⟩
    else .ok items[decimalValue digits]?
  | _ => .ok none

/-- The value at the end of some steps. -/
def walk (v : Value) : List String → Reached
  | [] => .ok (some v)
  | segment :: rest =>
    match step v segment with
    | .error e => .error e
    | .ok none => .ok none
    | .ok (some next) => walk next rest

theorem walk_append (v : Value) (first second : List String) :
    walk v (first ++ second) =
      match walk v first with
      | .error e => .error e
      | .ok none => .ok none
      | .ok (some next) => walk next second := by
  induction first generalizing v with
  | nil => rfl
  | cons segment rest ih =>
    rw [List.cons_append, walk, walk]
    cases step v segment with
    | error e => rfl
    | ok reached =>
      cases reached with
      | none => rfl
      | some next => exact ih next

/-- The value that a binding reaches. A component without a state, or with null for a state,
has nothing to reach; the empty path reaches the whole state. -/
def resolve (store : Store) (b : Binding) : Reached :=
  match store.read b.component with
  | none | some .null => .ok none
  | some state => if b.path.isEmpty then .ok (some state) else walk state (segments b.path)

/-- The binding that an object is taken for without further checks, if its members have the
right types. A path that does not count is the empty path. -/
def Binding.ofMembers? (ms : Members Value) : Option Binding :=
  match ms.get? "component", ms.get? "path" with
  | some (.str component), none => some ⟨component, ""⟩
  | some (.str component), some (.str path) => some ⟨component, path⟩
  | some (.str component), some v => if v.isTruthy then none else some ⟨component, ""⟩
  | _, _ => none

/-- The value that an unchecked binding reaches. -/
def resolveMembers (store : Store) (ms : Members Value) : Reached :=
  match Binding.ofMembers? ms with
  | some b => resolve store b
  | none => .ok none

/-- The value of an entry of a payload, none when its binding leads nowhere. -/
def PayloadEntry.evaluate (store : Store) : PayloadEntry Value → Reached
  | .literal v => .ok (some v)
  | .bound b => resolve store b

/-- A payload with its bindings followed. Entries whose bindings lead nowhere are left
out. -/
def evaluate (store : Store) : Payload Value → Except HugeIndex (Members Value)
  | [] => .ok []
  | (key, entry) :: rest =>
    match entry.evaluate store with
    | .error e => .error e
    | .ok reached =>
      match evaluate store rest, reached with
      | .error e, _ => .error e
      | .ok others, some v => .ok ((key, v) :: others)
      | .ok others, none => .ok others

end LivePage
