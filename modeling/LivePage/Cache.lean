/-
A cache of bounded size that forgets what was used longest ago. Setting a
key and finding it are uses; asking whether it is there is none.

* `Cache.get`, `Cache.set`, `Cache.clear`, `Cache.has`: the operations;
* `Cache.length`: the number of entries, of which `Cache.size` is a note;
* `Cache.hitRate`: the share of lookups that found something;
* `length_set_le`: setting a key keeps a cache within its capacity.
-/
import LivePage.Double.Basic

namespace LivePage

/-- A cache: its entries, the one used longest ago first, and what has happened to it. -/
structure Cache (κ α : Type) where
  capacity : Nat
  capacity_pos : 0 < capacity
  entries : List (κ × α)
  /-- The number of entries, as it was noted when they were last set or cleared. -/
  size : Nat
  hits : Nat
  misses : Nat
  evictions : Nat

namespace Cache

variable {κ α : Type}

/-- An empty cache of a capacity, which must be positive. -/
def ofCapacity? (capacity : Int) : Option (Cache κ α) :=
  if h : 0 < capacity then some ⟨capacity.toNat, by omega, [], 0, 0, 0, 0⟩ else none

/-- The number of entries. -/
def length (c : Cache κ α) : Nat := c.entries.length

/-- The share of lookups that found something, zero before the first one. -/
def hitRate (c : Cache κ α) : Double :=
  .signed false (if c.hits + c.misses = 0 then .zero else .ofRatio c.hits (c.hits + c.misses))

def clear (c : Cache κ α) : Cache κ α := { c with entries := [], size := 0 }

variable [BEq κ]

/-- Whether a key is present. This is no use of it. -/
def has (c : Cache κ α) (key : κ) : Bool := (c.entries.lookup key).isSome

/-- The entries with a key moved to the end, or put there. -/
def renewed (c : Cache κ α) (key : κ) (value : α) : List (κ × α) :=
  c.entries.filter (fun entry => !(entry.1 == key)) ++ [(key, value)]

/-- Looks a key up, and counts the outcome. -/
def get (c : Cache κ α) (key : κ) : Option α × Cache κ α :=
  match c.entries.lookup key with
  | some value => (some value, { c with entries := c.renewed key value, hits := c.hits + 1 })
  | none => (none, { c with misses := c.misses + 1 })

/-- Sets a key. When there are too many entries, the one used longest ago goes. -/
def set (c : Cache κ α) (key : κ) (value : α) : Cache κ α :=
  let entries := c.renewed key value
  if entries.length > c.capacity then
    let entries := entries.drop 1
    { c with entries := entries, size := entries.length, evictions := c.evictions + 1 }
  else { c with entries := entries, size := entries.length }

/-! ### Lengths -/

theorem length_renewed_le (c : Cache κ α) (key : κ) (value : α) :
    (c.renewed key value).length ≤ c.entries.length + 1 := by
  have h := List.length_filter_le (fun entry => !(entry.1 == key)) c.entries
  simp only [renewed, List.length_append, List.length_singleton]
  omega

theorem length_set_le {c : Cache κ α} (key : κ) (value : α) (h : c.length ≤ c.capacity) :
    (c.set key value).length ≤ (c.set key value).capacity := by
  have hr := c.length_renewed_le key value
  rw [length] at h
  by_cases hover : (c.renewed key value).length > c.capacity
  · simp only [set, length, hover, if_true, List.length_drop]
    omega
  · simp only [set, length, hover, if_false]
    omega

end Cache

end LivePage
