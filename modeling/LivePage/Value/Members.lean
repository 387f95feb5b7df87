/-
Lists of named values in order, the form of every object: setting a name
that is present keeps its place, and a new one goes last.

* `Members.get?`, `Members.put`: reading and setting a name;
* `Members.renamed`: the members under other names;
* `get?_put_self`, `get?_put_of_ne`: what is read after setting a name;
* `keys_put`, `keys_mapValues`: the names after setting one, and after applying a function.
-/

namespace LivePage

/-- Named values in order. -/
abbrev Members (α : Type) (τ : Type := String) := List (τ × α)

namespace Members

variable {α β τ : Type}

/-- The names, in order. -/
def keys (ms : Members α τ) : List τ := ms.map Prod.fst

/-- Applies a function to every value. -/
def mapValues (f : α → β) (ms : Members α τ) : Members β τ := ms.map fun (k, v) => (k, f v)

theorem keys_mapValues (f : α → β) (ms : Members α τ) : (ms.mapValues f).keys = ms.keys := by
  rw [keys, keys, mapValues, List.map_map]
  rfl

variable [DecidableEq τ]

/-- The value of a name. -/
def get? (ms : Members α τ) (key : τ) : Option α := ms.lookup key

def has (ms : Members α τ) (key : τ) : Bool := (ms.get? key).isSome

/-- Sets a name: in its place when it is present, else at the end. -/
def put (ms : Members α τ) (key : τ) (value : α) : Members α τ :=
  match ms with
  | [] => [(key, value)]
  | (k, v) :: rest => if key == k then (k, value) :: rest else (k, v) :: put rest key value

/-- Sets the names of a second list one after the other. -/
def putAll (ms : Members α τ) (others : Members α τ) : Members α τ :=
  others.foldl (fun all (key, value) => all.put key value) ms

/-- The members under the names that `f` gives for theirs. They stay as they are if all names do,
and otherwise they are set one after the other. -/
def renamed (f : τ → τ) (ms : Members α τ) : Members α τ :=
  if ms.keys.all fun key => f key == key then ms
  else putAll [] (ms.map fun (key, value) => (f key, value))

/-- The object that sets names one after the other, of which the last one comes first in the
list: a repeated name keeps its first place and its last value. -/
def ofReverse (ms : Members α τ) : Members α τ := putAll [] ms.reverse

theorem get?_nil (key : τ) : get? ([] : Members α τ) key = none := rfl

theorem get?_cons (k : τ) (v : α) (rest : Members α τ) (key : τ) :
    get? ((k, v) :: rest) key = if key = k then some v else rest.get? key := by
  by_cases h : key = k
  · simp [get?, h]
  · have h' : (key == k) = false := by simp [h]
    simp [get?, List.lookup_cons, h, h']

@[simp]
theorem get?_put_self (ms : Members α τ) (key : τ) (value : α) :
    (ms.put key value).get? key = some value := by
  induction ms with
  | nil => simp [put, get?_cons]
  | cons m rest ih =>
    obtain ⟨k, v⟩ := m
    by_cases h : key = k <;> simp [put, get?_cons, h, ih]

theorem get?_put_of_ne (ms : Members α τ) {key other : τ} (value : α) (h : other ≠ key) :
    (ms.put key value).get? other = ms.get? other := by
  induction ms with
  | nil => simp [put, get?_cons, get?_nil, h]
  | cons m rest ih =>
    obtain ⟨k, v⟩ := m
    by_cases hk : key = k
    · subst hk
      simp [put, get?_cons, h]
    · simp [put, get?_cons, hk, ih]

theorem keys_put (ms : Members α τ) (key : τ) (value : α) :
    (ms.put key value).keys = if key ∈ ms.keys then ms.keys else ms.keys ++ [key] := by
  induction ms with
  | nil => simp [put, keys]
  | cons m rest ih =>
    obtain ⟨k, v⟩ := m
    simp only [keys] at ih
    by_cases h : key = k
    · simp [put, keys, h]
    · by_cases hr : key ∈ rest.map Prod.fst <;> simp [put, keys, h, ih, hr]

end Members

end LivePage
