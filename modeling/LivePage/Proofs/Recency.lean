/-
What a cache remembers, told from its history alone: the keys that were used last, as many
as there is room for, each with the value that it was set to last.

* `Cache.History.uses`, `usedSince`, `sinceClear`, `lastSet?`: what a history
  says of the use of keys;
* `mem_rtake_dedup_iff`: which keys are among the last different ones of a list;
* `Cache.Ordered`: the keys of a cache are the last ones that were used;
* `Cache.Valued`, `Cache.Counted`: the values and the counts of a cache;
* `Cache.Tracks.history`: all of this behind any run;
* `Cache.Recalls`, `recalls_last_used`: what there is to say of a cache that was used.
-/
import LivePage.Proofs.CacheRuns
import Mathlib.Data.List.DropRight

namespace LivePage

/-! ### Last elements -/

section

variable {κ : Type} {l : List κ} {key : κ} {n : ℕ}

lemma length_rtake (l : List κ) (n : ℕ) : (l.rtake n).length = min n l.length := by
  rw [List.rtake, List.length_drop]
  omega

lemma rtake_suffix (l : List κ) (n : ℕ) : l.rtake n <:+ l := List.drop_suffix ..

lemma rtake_append {last : List κ} (hlast : n ≤ last.length) (l : List κ) :
    (l ++ last).rtake n = last.rtake n := by
  have hlong : l.length ≤ (l ++ last).length - n := by
    rw [List.length_append]
    omega
  rw [List.rtake, List.drop_append, List.drop_eq_nil_of_le hlong, List.nil_append, List.rtake,
    List.length_append]
  congr 1
  omega

variable [DecidableEq κ]

/-- An element that is added comes last, and only there. -/
lemma dedup_concat (l : List κ) (key : κ) :
    (l ++ [key]).dedup = l.dedup.filter (· != key) ++ [key] := by
  induction l with
  | nil => rfl
  | cons x rest ih =>
      rw [List.cons_append]
      by_cases hx : x = key
      · subst hx
        rw [List.dedup_cons_of_mem (by simp), ih]
        by_cases hrest : x ∈ rest
        · rw [List.dedup_cons_of_mem hrest]
        · rw [List.dedup_cons_of_notMem hrest, List.filter_cons_of_neg (by simp)]
      · by_cases hrest : x ∈ rest
        · rw [List.dedup_cons_of_mem (by simp [hrest]), List.dedup_cons_of_mem hrest, ih]
        · rw [List.dedup_cons_of_notMem (by simp [hrest, hx]), List.dedup_cons_of_notMem hrest,
            List.filter_cons_of_pos (by simpa using hx), ih, List.cons_append]

/-- To move an element to the end and take the last ones, it is enough to do so with the last
ones, of which the first goes if there is one too many. -/
lemma rtake_filter_concat (hl : l.Nodup) (key : κ) (n : ℕ) :
    let moved := (l.rtake n).filter (· != key) ++ [key]
    (l.filter (· != key) ++ [key]).rtake n =
      if n < moved.length then moved.drop 1 else moved := by
  intro moved
  have hlength : moved.length = ((l.rtake n).filter (· != key)).length + 1 := by simp [moved]
  have hmost := List.length_filter_le (· != key) (l.rtake n)
  have hleast : (l.rtake n).length - 1 ≤ ((l.rtake n).filter (· != key)).length := by
    rw [← (hl.sublist (rtake_suffix l n).sublist).erase_eq_filter]
    exact List.le_length_erase
  rw [length_rtake] at hmost hleast
  obtain ⟨gone, hgone⟩ := rtake_suffix l n
  have hsplit : l.filter (· != key) ++ [key] = gone.filter (· != key) ++ moved := by
    conv_lhs => rw [← hgone, List.filter_append, List.append_assoc]
  rw [hsplit]
  by_cases hlong : n ≤ l.length
  · -- the last ones are `n`, and `moved` has at least as many
    rw [rtake_append (by omega), List.rtake]
    split
    · congr 1
      omega
    · have hzero : moved.length - n = 0 := by omega
      rw [hzero, List.drop_zero]
  · -- nothing is gone
    have hnil : gone = [] := by
      have htotal := congrArg List.length hgone
      rw [List.length_append, length_rtake] at htotal
      exact List.length_eq_zero_iff.mp (by omega)
    have hzero : moved.length - n = 0 := by omega
    rw [hnil, List.filter_nil, List.nil_append, List.rtake, hzero, List.drop_zero,
      if_neg (by omega)]

/-- The list behind the last place of an element. -/
lemma exists_rtakeWhile (hkey : key ∈ l) :
    ∃ before, l = before ++ key :: l.rtakeWhile (· != key) := by
  induction l using List.reverseRecOn with
  | nil => exact absurd hkey List.not_mem_nil
  | append_singleton l x ih =>
      by_cases hx : x = key
      · exact ⟨l, by rw [hx, List.rtakeWhile_concat_neg _ _ _ (by simp)]⟩
      · have hmem : key ∈ l := by simpa [Ne.symm hx] using hkey
        obtain ⟨before, hbefore⟩ := ih hmem
        refine ⟨before, ?_⟩
        rw [List.rtakeWhile_concat_pos _ _ _ (by simpa using hx), ← List.cons_append,
          ← List.append_assoc, ← hbefore]

lemma rtakeWhile_append_of_mem (hkey : key ∈ l) (earlier : List κ) :
    (earlier ++ l).rtakeWhile (· != key) = l.rtakeWhile (· != key) := by
  induction l using List.reverseRecOn with
  | nil => exact absurd hkey List.not_mem_nil
  | append_singleton l x ih =>
      rw [← List.append_assoc, List.rtakeWhile_concat, List.rtakeWhile_concat]
      by_cases hx : x = key
      · simp [hx]
      · have hmem : key ∈ l := by simpa [Ne.symm hx] using hkey
        rw [ih hmem]

/-- **Among the last.** An element is one of the last `n` different ones exactly if there are fewer
than `n` different ones behind its last place. -/
lemma mem_rtake_dedup_iff :
    key ∈ l.dedup.rtake n ↔ key ∈ l ∧ (l.rtakeWhile (· != key)).toFinset.card < n := by
  by_cases hkey : key ∈ l
  case neg =>
    refine iff_of_false (fun hlast => hkey ?_) fun h => hkey h.1
    exact List.mem_dedup.mp ((rtake_suffix ..).subset hlast)
  generalize hlater : l.rtakeWhile (· != key) = later
  obtain ⟨before, hbefore⟩ := exists_rtakeWhile hkey
  rw [hlater] at hbefore
  have hnot : key ∉ later := fun hmem => by
    rw [← hlater] at hmem
    simpa using List.mem_rtakeWhile_imp hmem
  have hsuffix : key :: later.dedup <:+ l.dedup := by
    rw [hbefore, List.dedup_append, List.dedup_cons_of_notMem hnot]
    exact List.suffix_union_right ..
  have hle := hsuffix.length_le
  have hlength := length_rtake l.dedup n
  rw [List.length_cons] at hle
  rw [List.card_toFinset, and_iff_right hkey]
  constructor
  · intro hlast
    by_contra hmany
    have hwithin := List.suffix_of_suffix_length_le (rtake_suffix l.dedup n)
      ((List.suffix_cons key later.dedup).trans hsuffix) (by omega)
    exact hnot (List.mem_dedup.mp (hwithin.subset hlast))
  · intro hfew
    have hwithin := List.suffix_of_suffix_length_le hsuffix (rtake_suffix l.dedup n)
      (by rw [List.length_cons]; omega)
    exact hwithin.subset List.mem_cons_self

end

namespace Cache

/-! ### What a history says -/

namespace Event

variable {κ α : Type}

/-- The key that is used. To set a key is a use of it, and so is to find it. -/
def used? : Event κ α → Option κ
  | .found key _ | .set key .. => some key
  | _ => none

def isGet : Event κ α → Bool
  | .found .. | .missed _ => true
  | _ => false

/-- Whether a key is set that was not there. -/
def isEntry : Event κ α → Bool
  | .set _ _ isNew => isNew
  | _ => false

def isClear : Event κ α → Bool
  | .cleared _ => true
  | _ => false

/-- The number of entries that are removed at once. -/
def removed : Event κ α → ℕ
  | .cleared removed => removed
  | _ => 0

/-- The value that a key is set to. -/
def valueOf? [DecidableEq κ] (key : κ) : Event κ α → Option α
  | .set other value _ => if other = key then some value else none
  | _ => none

end Event

namespace History

variable {κ α : Type} [DecidableEq κ] {past : History κ α} {e : Event κ α} {key : κ}

/-- The keys that were used, in order. -/
def uses (past : History κ α) : List κ := past.filterMap Event.used?

/-- What came behind the last clear. -/
def sinceClear (past : History κ α) : History κ α := past.rtakeWhile (!·.isClear)

/-- The uses behind the last use of a key, all of which are of other keys. -/
def usedSince (past : History κ α) (key : κ) : List κ := past.uses.rtakeWhile (· != key)

/-- The value that a key was set to last. -/
def lastSet? (past : History κ α) (key : κ) : Option α :=
  past.reverse.findSome? (Event.valueOf? key)

/-- A key was set. -/
def Sets (past : History κ α) (key : κ) : Prop := ∃ value isNew, .set key value isNew ∈ past

omit [DecidableEq κ] in
lemma uses_append (past more : History κ α) : uses (past ++ more) = past.uses ++ more.uses :=
  List.filterMap_append ..

omit [DecidableEq κ] in
lemma uses_singleton (e : Event κ α) : uses [e] = e.used?.toList := by
  rw [uses, List.filterMap_cons]
  cases e.used? <;> rfl

omit [DecidableEq κ] in
lemma sinceClear_concat (hclear : e.isClear = false) (past : History κ α) :
    sinceClear (past ++ [e]) = past.sinceClear ++ [e] :=
  List.rtakeWhile_concat_pos _ _ _ (by simp [hclear])

omit [DecidableEq κ] in
lemma Sets.append (hsets : past.Sets key) (more : History κ α) : Sets (past ++ more) key := by
  obtain ⟨value, isNew, hset⟩ := hsets
  exact ⟨value, isNew, List.mem_append_left _ hset⟩

lemma lastSet?_concat (past : History κ α) (e : Event κ α) (key : κ) :
    lastSet? (past ++ [e]) key = (e.valueOf? key).or (past.lastSet? key) := by
  rw [lastSet?, List.reverse_append, List.findSome?_append]
  simp [lastSet?]

/-- Behind the last use of a key that was used since the last clear, there is no clear. -/
lemma usedSince_eq (hkey : key ∈ past.sinceClear.uses) :
    past.usedSince key = past.sinceClear.uses.rtakeWhile (· != key) := by
  obtain ⟨earlier, hearlier⟩ := List.rtakeWhile_suffix (!·.isClear) past
  conv_lhs => rw [usedSince, ← hearlier, uses_append]
  exact rtakeWhile_append_of_mem hkey _

end History

/-! ### Keys -/

variable {κ α : Type} [DecidableEq κ] {n : ℕ} {past : History κ α} {c next : Cache κ α}
  {e : Event κ α} {key : κ}

/-- The keys of a cache are the last different ones that were used since the last clear, as many as
there is room for, and each of them was set since then. -/
structure Ordered (n : ℕ) (past : History κ α) (c : Cache κ α) : Prop where
  capacity : c.capacity = n
  keys : c.keys = past.sinceClear.uses.dedup.rtake n
  sets : ∀ key ∈ past.sinceClear.uses, past.sinceClear.Sets key

namespace Ordered

lemma nodup (hordered : Ordered n past c) : c.keys.Nodup :=
  hordered.keys ▸ (List.nodup_dedup _).sublist (rtake_suffix ..).sublist

lemma length_le (hordered : Ordered n past c) : c.length ≤ c.capacity := by
  rw [← length_keys, hordered.keys, length_rtake, hordered.capacity]
  exact min_le_left ..

lemma used (hordered : Ordered n past c) (hkey : key ∈ c.keys) : key ∈ past.sinceClear.uses := by
  rw [hordered.keys] at hkey
  exact List.mem_dedup.mp ((rtake_suffix ..).subset hkey)

/-- What is present, by the history. -/
lemma mem_keys_iff (hordered : Ordered n past c) :
    key ∈ c.keys ↔ past.sinceClear.Sets key ∧ (past.usedSince key).toFinset.card < n := by
  rw [hordered.keys, mem_rtake_dedup_iff]
  constructor
  · rintro ⟨hused, hfew⟩
    exact ⟨hordered.sets key hused, by rwa [History.usedSince_eq hused]⟩
  · rintro ⟨⟨value, isNew, hset⟩, hfew⟩
    have hused : key ∈ past.sinceClear.uses := List.mem_filterMap.mpr ⟨_, hset, rfl⟩
    exact ⟨hused, by rwa [← History.usedSince_eq hused]⟩

/-- A key that is used comes last, and if there is no room for it, the key goes that was used
longest ago. -/
lemma keys_used (hordered : Ordered n past c) (key : κ) (value : α) :
    (past.sinceClear.uses ++ [key]).dedup.rtake n =
      (if c.capacity < (c.renewed key value).length then (c.renewed key value).drop 1
        else c.renewed key value).map Prod.fst := by
  rw [dedup_concat, rtake_filter_concat (List.nodup_dedup _), ← hordered.keys, hordered.capacity,
    ← keys_renewed c key value, List.length_map, apply_ite (List.map Prod.fst), List.map_drop]

/-- A key is used. -/
lemma use (hordered : Ordered n past c) {value : α} (hused : e.used? = some key)
    (hclear : e.isClear = false) (hsets : (past.sinceClear ++ [e]).Sets key)
    (hcapacity : next.capacity = n)
    (hentries : next.entries =
      if c.capacity < (c.renewed key value).length then (c.renewed key value).drop 1
      else c.renewed key value) :
    Ordered n (past ++ [e]) next := by
  have hsince := History.sinceClear_concat hclear past
  have huses : (past.sinceClear ++ [e] : History κ α).uses = past.sinceClear.uses ++ [key] := by
    rw [History.uses_append, History.uses_singleton, hused, Option.toList_some]
  refine ⟨hcapacity, ?_, fun other hother => ?_⟩
  · rw [hsince, huses, hordered.keys_used key value, Cache.keys, hentries]
  · rw [hsince, huses, List.mem_append, List.mem_singleton] at hother
    rw [hsince]
    rcases hother with hother | rfl
    · exact (hordered.sets other hother).append _
    · exact hsets

/-- Nothing is used, and nothing is cleared. -/
lemma idle (hordered : Ordered n past c) (hused : e.used? = none) (hclear : e.isClear = false)
    (hcapacity : next.capacity = c.capacity) (hentries : next.entries = c.entries) :
    Ordered n (past ++ [e]) next := by
  have hsince := History.sinceClear_concat hclear past
  have huses : (past.sinceClear ++ [e] : History κ α).uses = past.sinceClear.uses := by
    rw [History.uses_append, History.uses_singleton, hused, Option.toList_none, List.append_nil]
  refine ⟨hcapacity.trans hordered.capacity, ?_, fun key hkey => ?_⟩
  · rw [hsince, huses, ← hordered.keys, Cache.keys, hentries, Cache.keys]
  · rw [hsince, huses] at hkey
    exact hsince ▸ (hordered.sets key hkey).append _

/-- **Whatever an operation comes to, it keeps the keys in order.** -/
lemma step (hordered : Ordered n past c) (hdoes : c.Does e next) :
    Ordered n (past ++ [e]) next := by
  cases hdoes with
  | @found key value hentry =>
      have hkey := mem_keys_of_mem hentry
      have hfits : ¬c.capacity < (c.renewed key value).length := by
        rw [length_renewed hordered.nodup, if_pos hkey, not_lt]
        exact hordered.length_le
      exact hordered.use rfl rfl ((hordered.sets key (hordered.used hkey)).append _)
        hordered.capacity (if_neg hfits).symm
  | missed _ => exact hordered.idle rfl rfl rfl rfl
  | set key value =>
      refine hordered.use rfl rfl ⟨value, _, List.mem_append_right _ (List.mem_singleton.mpr rfl)⟩
        ?_ (c.entries_set key value)
      rcases c.set_cases key value with ⟨-, hset⟩ | ⟨-, hset⟩ <;>
        exact hset ▸ hordered.capacity
  | asked key => exact hordered.idle rfl rfl rfl rfl
  | cleared =>
      have hsince : (past ++ [.cleared c.length] : History κ α).sinceClear = [] :=
        List.rtakeWhile_concat_neg _ _ _ (by simp [Event.isClear])
      refine ⟨hordered.capacity, ?_, ?_⟩ <;> rw [hsince]
      · exact (List.drop_nil ..).symm
      · exact nofun

end Ordered

/-! ### Values and counts -/

/-- Every key has the value that it was set to last. -/
def Valued (past : History κ α) (c : Cache κ α) : Prop :=
  ∀ entry ∈ c.entries, past.lastSet? entry.1 = some entry.2

lemma Valued.idle (hvalued : Valued past c) (hvalue : ∀ key, e.valueOf? key = none)
    (hentries : ∀ entry ∈ next.entries, entry ∈ c.entries) : Valued (past ++ [e]) next := by
  intro entry hentry
  rw [History.lastSet?_concat, hvalue, Option.none_or]
  exact hvalued entry (hentries entry hentry)

/-- **Whatever an operation comes to, it keeps the values.** -/
lemma Valued.step (hvalued : Valued past c) (hdoes : c.Does e next) :
    Valued (past ++ [e]) next := by
  cases hdoes with
  | found hentry =>
      refine hvalued.idle (fun _ => rfl) fun entry hmem => ?_
      rcases mem_renewed_iff.mp hmem with ⟨hold, -⟩ | rfl
      · exact hold
      · exact hentry
  | missed _ => exact hvalued.idle (fun _ => rfl) fun _ h => h
  | set key value =>
      intro entry hentry
      have hrenewed : entry ∈ c.renewed key value := by
        rw [entries_set] at hentry
        split at hentry
        · exact List.mem_of_mem_drop hentry
        · exact hentry
      rw [History.lastSet?_concat]
      rcases mem_renewed_iff.mp hrenewed with ⟨hold, hkey⟩ | rfl
      · rw [Event.valueOf?, if_neg (Ne.symm hkey), Option.none_or]
        exact hvalued entry hold
      · rw [Event.valueOf?, if_pos rfl, Option.some_or]
  | asked key => exact hvalued.idle (fun _ => rfl) fun _ h => h
  | cleared => exact nofun

/-- The counts of a cache are those of its history. -/
structure Counted (past : History κ α) (c : Cache κ α) : Prop where
  size : c.size = c.length
  gets : c.hits + c.misses = past.countP Event.isGet
  entered : past.countP Event.isEntry =
    c.length + c.evictions + (past.map Event.removed).sum

/-- A key that is set is one entry more, or one more that was evicted, if it was not there. -/
lemma length_set_add_evictions (hkeys : c.keys.Nodup) (hlength : c.length ≤ c.capacity) (key : κ)
    (value : α) : (c.set key value).length + (c.set key value).evictions =
      c.length + c.evictions + if key ∈ c.keys then 0 else 1 := by
  have hrenewed := length_renewed hkeys key value
  rcases c.set_cases key value with ⟨hover, hset⟩ | ⟨hfits, hset⟩
  · have hkey : key ∉ c.keys := fun hkey => by
      rw [if_pos hkey] at hrenewed
      omega
    rw [if_neg hkey] at hrenewed ⊢
    simp only [hset, length, List.length_drop] at hrenewed ⊢
    omega
  · simp only [hset, length, hrenewed]
    split <;> omega

/-- What an operation comes to, in numbers. -/
lemma Does.counts (hdoes : c.Does e next) (hkeys : c.keys.Nodup) (hlength : c.length ≤ c.capacity)
    (hsize : c.size = c.length) :
    next.size = next.length ∧
      next.hits + next.misses = c.hits + c.misses + (if e.isGet then 1 else 0) ∧
      next.length + next.evictions + e.removed =
        c.length + c.evictions + (if e.isEntry then 1 else 0) := by
  cases hdoes with
  | @found key value hentry =>
      have hrenewed : (c.renewed key value).length = c.length := by
        rw [length_renewed hkeys, if_pos (mem_keys_of_mem hentry)]
      exact ⟨hsize.trans hrenewed.symm, Nat.add_right_comm .., congrArg (· + c.evictions) hrenewed⟩
  | missed _ => exact ⟨hsize, rfl, rfl⟩
  | set key value =>
      refine ⟨?_, ?_, (length_set_add_evictions hkeys hlength key value).trans ?_⟩
      · rcases c.set_cases key value with ⟨-, hset⟩ | ⟨-, hset⟩ <;> rw [hset] <;> rfl
      · rcases c.set_cases key value with ⟨-, hset⟩ | ⟨-, hset⟩ <;> rw [hset] <;> rfl
      · by_cases hkey : key ∈ c.keys
        · simp [Event.isEntry, hkey, has_iff.mpr hkey]
        · have hhas : c.has key = false := by simpa [← has_iff] using hkey
          simp [Event.isEntry, hkey, hhas]
  | asked key => exact ⟨hsize, rfl, rfl⟩
  | cleared =>
      refine ⟨rfl, rfl, ?_⟩
      change 0 + c.evictions + c.length = c.length + c.evictions
      omega

/-- **Whatever an operation comes to, it keeps the counts.** -/
lemma Counted.step (hcounted : Counted past c) (hordered : Ordered n past c)
    (hdoes : c.Does e next) : Counted (past ++ [e]) next := by
  obtain ⟨hsize, hgets, hentered⟩ := hcounted
  obtain ⟨hsize, hget, hentry⟩ := hdoes.counts hordered.nodup hordered.length_le hsize
  refine ⟨hsize, ?_, ?_⟩
  · rw [List.countP_append, List.countP_singleton, hget, hgets]
  · rw [List.countP_append, List.countP_singleton, List.map_append, List.sum_append,
      List.map_singleton, List.sum_singleton]
    omega

/-! ### Runs -/

/-- A cache is what its history says. -/
structure Tracks (n : ℕ) (past : History κ α) (c : Cache κ α) : Prop where
  ordered : Ordered n past c
  valued : Valued past c
  counted : Counted past c

lemma empty_tracks (hn : 0 < n) : Tracks n [] (empty n hn : Cache κ α) where
  ordered := ⟨rfl, (List.drop_nil ..).symm, nofun⟩
  valued := nofun
  counted := ⟨rfl, rfl, rfl⟩

lemma Tracks.step (htracks : Tracks n past c) (hdoes : c.Does e next) :
    Tracks n (past ++ [e]) next where
  ordered := htracks.ordered.step hdoes
  valued := htracks.valued.step hdoes
  counted := htracks.counted.step htracks.ordered hdoes

/-- **A run leaves the cache that its history says.** -/
theorem Tracks.history {start : Cache κ α} (htracks : Tracks n [] start)
    (ops : List (Operation κ α)) : Tracks n (start.history ops) (start.afterAll ops) :=
  history_induction htracks (fun _ _ _ _ h hdoes => h.step hdoes) ops

/-- What there is to say of a cache with room for `n` entries, given what has been done with it. -/
structure Recalls (n : ℕ) (past : History κ α) (c : Cache κ α) : Prop where
  /-- Its keys are the last `n` different ones that were used since the last clear, in that
  order. -/
  keys_eq : c.keys = past.sinceClear.uses.dedup.rtake n
  /-- A key is present exactly if it was set since the last clear, and fewer than `n` different
  other keys were used since it was used last. -/
  has_iff : ∀ key, c.has key ↔
    past.sinceClear.Sets key ∧ (past.usedSince key).toFinset.card < n
  /-- A key that is present has the value that it was set to last. -/
  get_of_has : ∀ key, c.has key → ∃ value,
    past.lastSet? key = some value ∧ (c.get key).1 = some value
  get_of_not_has : ∀ key, ¬c.has key → (c.get key).1 = none
  /-- To ask whether a key is present changes nothing. -/
  after_has : ∀ key, c.after (.has key) = c
  length_le : c.length ≤ n
  size_eq : c.size = c.length
  /-- Every look-up is counted once. -/
  gets : c.hits + c.misses = past.countP Event.isGet
  /-- Whatever was set that was not there is there, or was evicted, or was cleared. -/
  entered : past.countP Event.isEntry =
    c.length + c.evictions + (past.map Event.removed).sum

lemma get_fst (c : Cache κ α) (key : κ) : (c.get key).1 = c.entries.lookup key := by
  rw [get]
  cases c.entries.lookup key <;> rfl

lemma Tracks.recalls (htracks : Tracks n past c) : Recalls n past c where
  keys_eq := htracks.ordered.keys
  has_iff _ := Cache.has_iff.trans htracks.ordered.mem_keys_iff
  get_of_has key hkey := by
    obtain ⟨value, hlookup⟩ := Option.isSome_iff_exists.mp hkey
    exact ⟨value, htracks.valued _ (mem_of_lookup hlookup), (get_fst c key).trans hlookup⟩
  get_of_not_has key hkey := by
    rw [get_fst]
    exact Option.not_isSome_iff_eq_none.mp hkey
  after_has _ := rfl
  length_le := htracks.ordered.capacity ▸ htracks.ordered.length_le
  size_eq := htracks.counted.size
  gets := htracks.counted.gets
  entered := htracks.counted.entered

end Cache

/-- **What a cache remembers.** Whatever has been done with a cache of values for texts that was
empty at first, it has the values of the texts that were used last, as many as it has room for, and
its counts account for everything. Texts with one digest count as one. -/
theorem recalls_last_used {α : Type} {n : ℕ} (hn : 1 ≤ n)
    (ops : List (Cache.Operation (List UInt8) α)) :
    ∃ start : Cache UInt64 α, Cache.ofCapacity? n = some start ∧
      let past := start.history (ops.map (.mapKey Digest.ofBytes))
      past.map Cache.Event.operation = ops.map (.mapKey Digest.ofBytes) ∧
        (start.afterAll (ops.map (.mapKey Digest.ofBytes))).Recalls n past :=
  ⟨.empty n hn, Cache.ofCapacity?_eq hn, Cache.map_operation_history ..,
    ((Cache.empty_tracks hn).history _).recalls⟩

/-- Three texts are set, and the first one is looked up before the third. -/
def threeTexts : List (Cache.Operation (List UInt8) ℕ) :=
  [.set [0x61] 1, .set [0x62] 2, .get [0x61], .set [0x63] 3, .get [0x62]]

/-- With room for two, the second text goes. -/
theorem recalls_threeTexts :
    ∃ start : Cache UInt64 ℕ, Cache.ofCapacity? 2 = some start ∧
      let digested := threeTexts.map (.mapKey Digest.ofBytes)
      let last := start.afterAll digested
      last.Recalls 2 (start.history digested) ∧
        last.entries = [(Digest.ofBytes [0x61], 1), (Digest.ofBytes [0x63], 3)] ∧
        (last.hits, last.misses, last.evictions) = (1, 1, 1) := by
  obtain ⟨start, hstart, -, hrecalls⟩ := recalls_last_used (show 1 ≤ 2 by decide) threeTexts
  refine ⟨start, hstart, hrecalls, ?_⟩
  cases hstart
  decide +kernel

end LivePage
