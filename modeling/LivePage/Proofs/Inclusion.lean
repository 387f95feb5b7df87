/-
Two caches of different room under the same operations. What the smaller one holds, the
larger one holds as well, in the same order and with the same values, although the larger
one finds keys that the smaller one has lost, and the two evict at different times.

* `filter_eq_of_sublist`: a part of a list, told by its keys;
* `Cache.Within`: a smaller cache beside a larger one;
* `Cache.Within.get`, `Cache.Within.set`, `Cache.Within.after`: no operation parts them;
* `Cache.Covers`, `covers_smaller`: both caches behind any run.
-/
import LivePage.Proofs.Recency

namespace LivePage

/-- A part of a list whose elements have different keys is what has the keys of that part. -/
lemma filter_eq_of_sublist {κ β : Type} [DecidableEq κ] {f : β → κ} {part whole : List β}
    (hpart : part.Sublist whole) (hkeys : (whole.map f).Nodup) :
    whole.filter (fun x => f x ∈ part.map f) = part := by
  induction hpart with
  | slnil => rfl
  | @cons part whole x hpart ih =>
      obtain ⟨hx, hrest⟩ := List.nodup_cons.mp hkeys
      rw [List.filter_cons_of_neg, ih hrest]
      rw [decide_eq_true_iff]
      exact fun hmem => hx ((hpart.map f).subset hmem)
  | @cons_cons part whole x hpart ih =>
      obtain ⟨hx, hrest⟩ := List.nodup_cons.mp hkeys
      rw [List.filter_cons_of_pos (by simp)]
      conv_rhs => rw [← ih hrest]
      refine congrArg (x :: ·) (List.filter_congr fun y hy => ?_)
      have hother : f y ≠ f x := fun hsame => hx (hsame ▸ List.mem_map_of_mem hy)
      simp [hother]

namespace Cache

variable {κ α : Type} [DecidableEq κ] {c small large : Cache κ α} {key : κ} {value : α}

/-! ### One cache -/

lemma nodup_renewed (hkeys : c.keys.Nodup) (key : κ) (value : α) :
    ((c.renewed key value).map Prod.fst).Nodup := by
  rw [keys_renewed]
  exact (hkeys.filter _).append (List.nodup_singleton key) (by simp)

/-! ### Two caches -/

/-- A smaller cache beside a larger one: it holds some of its entries in their order, and as long as
it is not full, all of them. -/
structure Within (small large : Cache κ α) : Prop where
  capacity_le : small.capacity ≤ large.capacity
  entries : small.entries.Sublist large.entries
  nodup : large.keys.Nodup
  small_fits : small.length ≤ small.capacity
  large_fits : large.length ≤ large.capacity
  whole : small.length < small.capacity → small.entries = large.entries
  hits_le : small.hits ≤ large.hits

namespace Within

omit [DecidableEq κ] in
lemma keys (hwithin : small.Within large) : small.keys.Sublist large.keys :=
  hwithin.entries.map Prod.fst

omit [DecidableEq κ] in
lemma nodup_small (hwithin : small.Within large) : small.keys.Nodup :=
  hwithin.nodup.sublist hwithin.keys

/-- What the smaller cache finds, the larger one finds. -/
lemma lookup (hwithin : small.Within large) (hlookup : small.entries.lookup key = some value) :
    large.entries.lookup key = some value :=
  lookup_of_mem hwithin.nodup (hwithin.entries.subset (mem_of_lookup hlookup))

lemma renewed (hwithin : small.Within large) (key : κ) (value : α) :
    (small.renewed key value).Sublist (large.renewed key value) :=
  (hwithin.entries.filter _).append_right _

/-- A key that only the larger cache has can be used there without the smaller one. -/
lemma renewed_of_not_mem (hwithin : small.Within large) (hkey : key ∉ small.keys) (value : α) :
    small.entries.Sublist (large.renewed key value) := by
  have hothers : small.entries.filter (fun entry => !(entry.1 == key)) = small.entries :=
    List.filter_eq_self.mpr fun entry hentry => by
      have hne : entry.1 ≠ key := fun hsame => hkey (hsame ▸ mem_keys_of_mem hentry)
      simpa using hne
  have hfilter := hwithin.entries.filter (fun entry => !(entry.1 == key))
  rw [hothers] at hfilter
  exact hfilter.trans (List.sublist_append_left ..)

/-- When both caches find a key, both move it to the end; when only the larger one finds it, the
smaller one is full and keeps its order. -/
lemma get (hwithin : small.Within large) (key : κ) :
    (small.get key).2.Within (large.get key).2 := by
  rcases hsmall : small.entries.lookup key with _ | value
  · rw [get_of_lookup_none hsmall]
    rcases hlarge : large.entries.lookup key with _ | value
    · rw [get_of_lookup_none hlarge]
      exact { hwithin with }
    · rw [get_of_lookup hlarge]
      have hlength := length_renewed hwithin.nodup key value
      rw [if_pos (mem_keys_of_mem (mem_of_lookup hlarge))] at hlength
      refine { hwithin with
        entries := hwithin.renewed_of_not_mem (not_mem_keys_of_lookup hsmall) value
        nodup := nodup_renewed hwithin.nodup key value
        large_fits := hlength.trans_le hwithin.large_fits
        whole := fun hroom => ?_
        hits_le := Nat.le_succ_of_le hwithin.hits_le }
      rw [hwithin.whole hroom, hlarge] at hsmall
      exact absurd hsmall (Option.some_ne_none value)
  · have hlarge := hwithin.lookup hsmall
    have hkey := mem_keys_of_mem (mem_of_lookup hsmall)
    have hsmallLength := length_renewed hwithin.nodup_small key value
    have hlargeLength := length_renewed hwithin.nodup key value
    rw [if_pos hkey] at hsmallLength
    rw [if_pos (hwithin.keys.subset hkey)] at hlargeLength
    rw [get_of_lookup hsmall, get_of_lookup hlarge]
    exact { hwithin with
      entries := hwithin.renewed key value
      nodup := nodup_renewed hwithin.nodup key value
      small_fits := hsmallLength.trans_le hwithin.small_fits
      large_fits := hlargeLength.trans_le hwithin.large_fits
      whole := fun hroom => by
        have hwhole := hwithin.whole (hsmallLength.symm.trans_lt hroom)
        simp only [Cache.renewed, hwhole]
      hits_le := Nat.succ_le_succ hwithin.hits_le }

/-- When setting a key leaves room in the smaller cache, or fills it, the larger one does not
evict. -/
lemma large_keeps (hwithin : small.Within large)
    (hfits : (small.renewed key value).length ≤ small.capacity) :
    (large.renewed key value).length ≤ large.capacity := by
  have hsmallLength := length_renewed hwithin.nodup_small key value
  by_cases hkey : key ∈ small.keys
  · rw [length_renewed hwithin.nodup, if_pos (hwithin.keys.subset hkey)]
    exact hwithin.large_fits
  · rw [if_neg hkey] at hsmallLength
    have hwhole := hwithin.whole (by omega)
    have hsame : large.renewed key value = small.renewed key value := by
      simp only [Cache.renewed, hwhole]
    exact hsame ▸ hfits.trans hwithin.capacity_le

/-- The larger cache evicts only when the smaller one does. -/
lemma set (hwithin : small.Within large) (key : κ) (value : α) :
    (small.set key value).Within (large.set key value) := by
  have hrenewed := hwithin.renewed key value
  have hnodup := nodup_renewed hwithin.nodup key value
  have hsmallFits := length_set_le key value hwithin.small_fits
  have hlargeFits := length_set_le key value hwithin.large_fits
  have hsmallLength := length_renewed hwithin.nodup_small key value
  rcases small.set_cases key value with ⟨hsmall, hset⟩ | ⟨hsmall, hset⟩
  · -- the smaller cache is full then, whatever the larger one does
    rw [hset] at hsmallFits ⊢
    have hfull : ¬((small.renewed key value).drop 1).length < small.capacity := by
      rw [List.length_drop]
      omega
    rcases large.set_cases key value with ⟨-, hset⟩ | ⟨-, hset⟩ <;> rw [hset] at hlargeFits ⊢
    · exact { hwithin with
        entries := hrenewed.drop 1
        nodup := hnodup.sublist ((List.drop_sublist 1 _).map _)
        small_fits := hsmallFits
        large_fits := hlargeFits
        whole := fun hroom => absurd hroom hfull }
    · exact { hwithin with
        entries := (List.drop_sublist 1 _).trans hrenewed
        nodup := hnodup
        small_fits := hsmallFits
        large_fits := hlargeFits
        whole := fun hroom => absurd hroom hfull }
  · rcases large.set_cases key value with ⟨hlarge, -⟩ | ⟨-, hlargeSet⟩
    · exact absurd hlarge (not_lt.mpr (hwithin.large_keeps hsmall))
    rw [hset] at hsmallFits ⊢
    rw [hlargeSet] at hlargeFits ⊢
    refine { hwithin with
      entries := hrenewed
      nodup := hnodup
      small_fits := hsmallFits
      large_fits := hlargeFits
      whole := fun hroom => ?_ }
    have hbefore : small.length < small.capacity := by
      change (small.renewed key value).length < small.capacity at hroom
      split at hsmallLength <;> omega
    simp only [Cache.renewed, hwithin.whole hbefore]

omit [DecidableEq κ] in
lemma clear (hwithin : small.Within large) : small.clear.Within large.clear :=
  { hwithin with
    entries := List.Sublist.refl _
    nodup := List.nodup_nil
    small_fits := Nat.zero_le _
    large_fits := Nat.zero_le _
    whole := fun _ => rfl }

/-- **No operation parts two caches.** -/
lemma after (hwithin : small.Within large) (op : Operation κ α) :
    (small.after op).Within (large.after op) := by
  cases op with
  | get key => exact hwithin.get key
  | set key value => exact hwithin.set key value
  | has key => exact hwithin
  | clear => exact hwithin.clear

theorem afterAll (hwithin : small.Within large) (ops : List (Operation κ α)) :
    (small.afterAll ops).Within (large.afterAll ops) := by
  induction ops generalizing small large with
  | nil => exact hwithin
  | cons op rest ih => exact ih (hwithin.after op)

omit [DecidableEq κ] in
lemma empty {n m : ℕ} (hn : 0 < n) (hm : 0 < m) (hle : n ≤ m) :
    (Cache.empty n hn : Cache κ α).Within (.empty m hm) where
  capacity_le := hle
  entries := List.Sublist.refl _
  nodup := List.nodup_nil
  small_fits := Nat.zero_le _
  large_fits := Nat.zero_le _
  whole _ := rfl
  hits_le := le_rfl

end Within

/-- What a larger cache has on a smaller one. -/
structure Covers (large small : Cache κ α) : Prop where
  /-- An entry of the smaller cache is one of the larger, with the same value. -/
  mem : ∀ entry ∈ small.entries, entry ∈ large.entries
  /-- What the caches have in common is in one order in both. -/
  common : large.entries.filter (fun entry => small.has entry.1) = small.entries
  /-- A look-up that finds something in the smaller cache finds it in the larger one. -/
  get : ∀ key value, (small.get key).1 = some value → (large.get key).1 = some value
  hits_le : small.hits ≤ large.hits

lemma Within.covers (hwithin : small.Within large) : large.Covers small where
  mem _ hentry := hwithin.entries.subset hentry
  common := by
    have hpart := filter_eq_of_sublist hwithin.entries hwithin.nodup
    refine (List.filter_congr fun entry _ => ?_).trans hpart
    rw [← Bool.coe_iff_coe, has_iff, decide_eq_true_iff]
    rfl
  get key value hget := by
    rw [get_fst] at hget ⊢
    exact hwithin.lookup hget
  hits_le := hwithin.hits_le

end Cache

/-- **More room never serves less.** Whatever is done with two caches of values for texts that were
empty at first, the one with more room has what the other one has. -/
theorem covers_smaller {α : Type} {n m : ℕ} (hn : 1 ≤ n) (hnm : n ≤ m)
    (ops : List (Cache.Operation (List UInt8) α)) :
    ∃ small large : Cache UInt64 α,
      Cache.ofCapacity? n = some small ∧ Cache.ofCapacity? m = some large ∧
        (large.afterAll (ops.map (.mapKey Digest.ofBytes))).Covers
          (small.afterAll (ops.map (.mapKey Digest.ofBytes))) := by
  have hm : 0 < m := hn.trans hnm
  exact ⟨.empty n hn, .empty m hm, Cache.ofCapacity?_eq hn, Cache.ofCapacity?_eq hm,
    ((Cache.Within.empty hn hm hnm).afterAll _).covers⟩

/-- The cache with more room finds the first text, which the other one has lost. -/
theorem covers_smaller_threeTexts :
    ∃ small large : Cache UInt64 ℕ,
      Cache.ofCapacity? 1 = some small ∧ Cache.ofCapacity? 2 = some large ∧
        let digested := threeTexts.map (.mapKey Digest.ofBytes)
        (large.afterAll digested).Covers (small.afterAll digested) ∧
          (small.afterAll digested).hits = 0 ∧ (large.afterAll digested).hits = 1 := by
  obtain ⟨small, large, hsmall, hlarge, hcovers⟩ :=
    covers_smaller (show 1 ≤ 1 by decide) (show 1 ≤ 2 by decide) threeTexts
  refine ⟨small, large, hsmall, hlarge, hcovers, ?_⟩
  cases hsmall
  cases hlarge
  decide +kernel

end LivePage
