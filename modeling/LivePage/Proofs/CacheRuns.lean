/-
Runs of operations on a cache, and the history that they leave: of each operation, what
it came to.

* `Cache.Operation`, `Cache.after`, `Cache.afterAll`: operations, and what they do;
* `Cache.Event`, `Cache.history`: what operations come to, in order;
* `Cache.Does`, `Cache.does`: the ways in which an operation can go;
* `Cache.history_induction`: what every way to go keeps holds of every run;
* `Cache.keys`, `Cache.keys_renewed`: the keys of a cache, the one used longest ago first.
-/
import LivePage.Proofs.Caching

namespace LivePage

namespace Cache

/-! ### Operations -/

/-- What can be done with a cache. -/
inductive Operation (κ α : Type)
  | get (key : κ)
  | set (key : κ) (value : α)
  | has (key : κ)
  | clear

/-- What an operation came to. -/
inductive Event (κ α : Type)
  | found (key : κ) (value : α)
  | missed (key : κ)
  /-- A key was set, which was there before or was new. -/
  | set (key : κ) (value : α) (isNew : Bool)
  | asked (key : κ) (isThere : Bool)
  /-- All entries were removed. -/
  | cleared (removed : ℕ)

/-- What operations came to, in order. -/
abbrev History (κ α : Type) := List (Event κ α)

variable {κ ι α : Type}

/-- An operation on other keys. -/
def Operation.mapKey (f : κ → ι) : Operation κ α → Operation ι α
  | .get key => .get (f key)
  | .set key value => .set (f key) value
  | .has key => .has (f key)
  | .clear => .clear

/-- The keys of a cache, the one used longest ago first. -/
def keys (c : Cache κ α) : List κ := c.entries.map Prod.fst

lemma length_keys (c : Cache κ α) : c.keys.length = c.length := List.length_map ..

lemma mem_keys_of_mem {c : Cache κ α} {key : κ} {value : α} (hentry : (key, value) ∈ c.entries) :
    key ∈ c.keys :=
  List.mem_map.mpr ⟨_, hentry, rfl⟩

/-- The operation that came to an event. -/
def Event.operation : Event κ α → Operation κ α
  | .found key _ | .missed key => .get key
  | .set key value _ => .set key value
  | .asked key _ => .has key
  | .cleared _ => .clear

/-- A cache without entries. -/
def empty (capacity : ℕ) (hpos : 0 < capacity) : Cache κ α := ⟨capacity, hpos, [], 0, 0, 0, 0⟩

lemma ofCapacity?_eq {n : ℕ} (hn : 0 < n) : ofCapacity? n = some (empty n hn : Cache κ α) := by
  have hpos : (0 : ℤ) < n := Int.natCast_pos.mpr hn
  rw [ofCapacity?, dif_pos hpos]
  rfl

variable [DecidableEq κ]

/-- What an operation comes to. -/
def event (c : Cache κ α) : Operation κ α → Event κ α
  | .get key =>
    match (c.get key).1 with
    | some value => .found key value
    | none => .missed key
  | .set key value => .set key value (!c.has key)
  | .has key => .asked key (c.has key)
  | .clear => .cleared c.length

/-- The cache behind an operation. -/
def after (c : Cache κ α) : Operation κ α → Cache κ α
  | .get key => (c.get key).2
  | .set key value => c.set key value
  | .has _ => c
  | .clear => c.clear

/-- The cache behind some operations, one after the other. -/
def afterAll (c : Cache κ α) (ops : List (Operation κ α)) : Cache κ α := ops.foldl after c

/-- What some operations come to, one after the other. -/
def history (c : Cache κ α) : List (Operation κ α) → History κ α
  | [] => []
  | op :: rest => c.event op :: (c.after op).history rest

variable {c next : Cache κ α} {key other : κ} {value : α} {entry : κ × α}

lemma operation_event (c : Cache κ α) (op : Operation κ α) : (c.event op).operation = op := by
  cases op with
  | get key =>
      rw [event]
      cases (c.get key).1 <;> rfl
  | set key value => rfl
  | has key => rfl
  | clear => rfl

/-- A history tells the operations that left it. -/
lemma map_operation_history (c : Cache κ α) (ops : List (Operation κ α)) :
    (c.history ops).map Event.operation = ops := by
  induction ops generalizing c with
  | nil => rfl
  | cons op rest ih => rw [history, List.map_cons, operation_event, ih]

lemma history_concat (c : Cache κ α) (ops : List (Operation κ α)) (op : Operation κ α) :
    c.history (ops ++ [op]) = c.history ops ++ [(c.afterAll ops).event op] := by
  induction ops generalizing c with
  | nil => rfl
  | cons first rest ih => rw [List.cons_append, history, history, ih, List.cons_append]; rfl

lemma afterAll_concat (c : Cache κ α) (ops : List (Operation κ α)) (op : Operation κ α) :
    c.afterAll (ops ++ [op]) = (c.afterAll ops).after op :=
  List.foldl_append

/-! ### Entries -/

lemma has_iff : c.has key ↔ key ∈ c.keys := by
  rw [has, List.lookup_isSome_iff, keys, List.mem_map]
  simp only [beq_iff_eq, @eq_comm _ key]

lemma not_mem_keys_of_lookup (hlookup : c.entries.lookup key = none) : key ∉ c.keys := by
  simp [← has_iff, has, hlookup]

lemma get_of_lookup (hlookup : c.entries.lookup key = some value) :
    c.get key = (some value, { c with entries := c.renewed key value, hits := c.hits + 1 }) := by
  rw [get, hlookup]

lemma get_of_lookup_none (hlookup : c.entries.lookup key = none) :
    c.get key = (none, { c with misses := c.misses + 1 }) := by
  rw [get, hlookup]

lemma mem_renewed_iff :
    entry ∈ c.renewed key value ↔ entry ∈ c.entries ∧ entry.1 ≠ key ∨ entry = (key, value) := by
  simp [renewed]

/-- A key that is used goes to the end. -/
lemma keys_renewed (c : Cache κ α) (key : κ) (value : α) :
    (c.renewed key value).map Prod.fst = c.keys.filter (· != key) ++ [key] := by
  rw [renewed, keys, List.map_append, List.filter_map]
  rfl

/-- Of a key that is used there is one entry then, whether it was there before or not. -/
lemma length_renewed (hkeys : c.keys.Nodup) (key : κ) (value : α) :
    (c.renewed key value).length = if key ∈ c.keys then c.length else c.length + 1 := by
  rw [← List.length_map, keys_renewed, List.length_append, List.length_singleton,
    ← hkeys.erase_eq_filter, List.length_erase, ← length_keys]
  split <;> rename_i hkey
  · have hpos := List.length_pos_of_mem hkey
    omega
  · rfl

/-- Setting a key evicts the first entry if there is one too many then. -/
lemma set_cases (c : Cache κ α) (key : κ) (value : α) :
    (c.capacity < (c.renewed key value).length ∧
      c.set key value = { c with
        entries := (c.renewed key value).drop 1
        size := ((c.renewed key value).drop 1).length
        evictions := c.evictions + 1 }) ∨
    ((c.renewed key value).length ≤ c.capacity ∧
      c.set key value = { c with
        entries := c.renewed key value
        size := (c.renewed key value).length }) := by
  by_cases hover : c.capacity < (c.renewed key value).length
  · exact .inl ⟨hover, if_pos hover⟩
  · exact .inr ⟨not_lt.mp hover, if_neg hover⟩

lemma entries_set (c : Cache κ α) (key : κ) (value : α) :
    (c.set key value).entries =
      if c.capacity < (c.renewed key value).length then (c.renewed key value).drop 1
      else c.renewed key value := by
  rcases c.set_cases key value with ⟨hover, hset⟩ | ⟨hfits, hset⟩
  · rw [hset, if_pos hover]
  · rw [hset, if_neg (not_lt.mpr hfits)]

/-- When the keys are all different, each of them has one value. -/
lemma lookup_of_mem (hkeys : c.keys.Nodup) (hentry : (key, value) ∈ c.entries) :
    c.entries.lookup key = some value := by
  obtain ⟨found, hfound⟩ := Option.isSome_iff_exists.mp (has_iff.mpr (mem_keys_of_mem hentry))
  have hsame := List.inj_on_of_nodup_map hkeys (mem_of_lookup hfound) hentry rfl
  rw [hfound, (Prod.mk.inj hsame).2]

/-! ### Ways to go -/

/-- What an operation can come to, and what it leaves. -/
inductive Does (c : Cache κ α) : Event κ α → Cache κ α → Prop
  | found {key : κ} {value : α} (hentry : (key, value) ∈ c.entries) :
      Does c (.found key value) { c with entries := c.renewed key value, hits := c.hits + 1 }
  | missed {key : κ} (hkey : key ∉ c.keys) :
      Does c (.missed key) { c with misses := c.misses + 1 }
  | set (key : κ) (value : α) : Does c (.set key value (!c.has key)) (c.set key value)
  | asked (key : κ) : Does c (.asked key (c.has key)) c
  | cleared : Does c (.cleared c.length) c.clear

lemma does (c : Cache κ α) (op : Operation κ α) : c.Does (c.event op) (c.after op) := by
  cases op with
  | get key =>
      rcases hlookup : c.entries.lookup key with _ | value
      · rw [event, after, get_of_lookup_none hlookup]
        exact .missed (not_mem_keys_of_lookup hlookup)
      · rw [event, after, get_of_lookup hlookup]
        exact .found (mem_of_lookup hlookup)
  | set key value => exact .set key value
  | has key => exact .asked key
  | clear => exact .cleared

/-- What holds at the start and is kept by every way to go holds behind every run. -/
theorem history_induction {P : History κ α → Cache κ α → Prop} {start : Cache κ α}
    (hstart : P [] start)
    (hstep : ∀ past c e next, P past c → c.Does e next → P (past ++ [e]) next)
    (ops : List (Operation κ α)) : P (start.history ops) (start.afterAll ops) := by
  induction ops using List.reverseRecOn with
  | nil => exact hstart
  | append_singleton ops op ih =>
      rw [history_concat, afterAll_concat]
      exact hstep _ _ _ _ ih ((start.afterAll ops).does op)

end Cache

end LivePage
