/-
What becomes of a payload. Each entry gives at most one value: a literal gives itself, and a
binding what it reaches. The entries that give nothing are left out, and the others keep their
names and their order. All of this holds unless one of the bindings has no answer; then there is
no payload.

* `PayloadEntry.Gives`, `PayloadEntry.Sticks`: what an entry gives, and when it has no answer;
* `Payload.Becomes`: a payload and what is left of it;
* `Payload.evaluate_eq_ok_iff`, `Payload.exists_evaluate_iff`: a payload is evaluated to what
  becomes of it, and when it is;
* `Payload.Binds`, `Payload.evaluate_congr`: the states that count.
-/
import LivePage.Proofs.Reaching

namespace LivePage

open Json

/-! ### Entries -/

namespace PayloadEntry

/-- The value that an entry gives. -/
inductive Gives (store : Store) : PayloadEntry Value → Value → Prop
  | literal (v : Value) : Gives store (.literal v) v
  | bound {b : Binding} {v : Value} (hreaches : (Reference.checked b).Reaches store v) :
      Gives store (.bound b) v

/-- The binding of an entry has no answer. -/
inductive Sticks (store : Store) : PayloadEntry Value → ℕ → Prop
  | bound {b : Binding} {digits : ℕ} (hsticks : (Reference.checked b).Sticks store digits) :
      Sticks store (.bound b) digits

variable {store : Store} {entry : PayloadEntry Value} {v w : Value}

lemma evaluate_eq_ok_some_iff : entry.evaluate store = .ok (some v) ↔ entry.Gives store v := by
  cases entry with
  | literal w =>
      constructor
      · intro hevaluate
        obtain rfl : w = v := by simpa [evaluate] using hevaluate
        exact .literal w
      · rintro ⟨⟩
        rfl
  | bound b =>
      have hreaches : (Reference.checked b).resolve store = .ok (some v) ↔ _ :=
        Reference.resolve_eq_ok_some_iff
      exact ⟨fun h => .bound (hreaches.mp h), fun | .bound h => hreaches.mpr h⟩

lemma evaluate_eq_error_iff {e : HugeIndex} :
    entry.evaluate store = .error e ↔ entry.Sticks store e.digits := by
  cases entry with
  | literal w => exact iff_of_false nofun nofun
  | bound b =>
      have hsticks : (Reference.checked b).resolve store = .error e ↔ _ :=
        Reference.resolve_eq_error_iff
      exact ⟨fun h => .bound (hsticks.mp h), fun | .bound h => hsticks.mpr h⟩

/-- An entry gives no second value. -/
lemma Gives.unique (hv : entry.Gives store v) (hw : entry.Gives store w) : v = w := by
  rw [← evaluate_eq_ok_some_iff] at hv hw
  simpa [hv] using hw

/-- An entry gives a value, which may be null. -/
def Present (store : Store) (entry : PayloadEntry Value) : Prop := ∃ v, entry.Gives store v

instance (store : Store) : DecidablePred (Present store) := fun entry =>
  match hentry : entry.evaluate store with
  | .ok (some v) => .isTrue ⟨v, evaluate_eq_ok_some_iff.mp hentry⟩
  | .ok none | .error _ =>
    .isFalse fun ⟨v, hv⟩ => by simp [evaluate_eq_ok_some_iff.mpr hv] at hentry

end PayloadEntry

/-! ### Payloads -/

namespace Payload

variable {store other : Store} {payload rest : Payload Value} {values : Members Value}
  {key : String} {entry : PayloadEntry Value} {v : Value}

/-- What becomes of a payload: each entry that gives a value is replaced by it, and each other
entry is left out. -/
inductive Becomes (store : Store) : Payload Value → Members Value → Prop
  | nil : Becomes store [] []
  | kept {key : String} {entry : PayloadEntry Value} {v : Value} {rest : Payload Value}
      {values : Members Value} (hgives : entry.Gives store v) (hrest : Becomes store rest values) :
      Becomes store ((key, entry) :: rest) ((key, v) :: values)
  | dropped {key : String} {entry : PayloadEntry Value} {rest : Payload Value}
      {values : Members Value} (hnothing : ¬entry.Present store)
      (hrest : Becomes store rest values) : Becomes store ((key, entry) :: rest) values

/-- No binding is without an answer. -/
def Answered (store : Store) (payload : Payload Value) : Prop :=
  ∀ m ∈ payload, ∀ digits, ¬m.2.Sticks store digits

namespace Becomes

/-- What is left has the names of the entries that give something, in their order. -/
lemma keys_eq (hbecomes : Becomes store payload values) :
    values.keys = Members.keys (payload.filter fun m => m.2.Present store) := by
  induction hbecomes with
  | nil => rfl
  | kept hgives _ ih =>
      rw [List.filter_cons_of_pos (by simpa using ⟨_, hgives⟩)]
      exact congrArg (_ :: ·) ih
  | dropped hnothing _ ih =>
      rw [List.filter_cons_of_neg (by simpa using hnothing)]
      exact ih

/-- Under a name stands what its entry gives, and that is all. -/
lemma mem_iff (hbecomes : Becomes store payload values) :
    (key, v) ∈ values ↔ ∃ entry, (key, entry) ∈ payload ∧ entry.Gives store v := by
  induction hbecomes with
  | nil => simp
  | @kept k entry w rest values hgives _ ih =>
      rw [List.mem_cons, ih]
      constructor
      · rintro (hself | ⟨found, hfound, hv⟩)
        · cases hself
          exact ⟨entry, List.mem_cons_self, hgives⟩
        · exact ⟨found, List.mem_cons_of_mem _ hfound, hv⟩
      · rintro ⟨found, hfound, hv⟩
        rcases List.mem_cons.mp hfound with hself | hfound
        · cases hself
          exact .inl (by rw [hv.unique hgives])
        · exact .inr ⟨found, hfound, hv⟩
  | @dropped k entry rest values hnothing _ ih =>
      rw [ih]
      constructor
      · rintro ⟨found, hfound, hv⟩
        exact ⟨found, List.mem_cons_of_mem _ hfound, hv⟩
      · rintro ⟨found, hfound, hv⟩
        rcases List.mem_cons.mp hfound with hself | hfound
        · cases hself
          exact absurd ⟨v, hv⟩ hnothing
        · exact ⟨found, hfound, hv⟩

end Becomes

lemma answered_cons_iff : Answered store ((key, entry) :: rest) ↔
    (∀ digits, ¬entry.Sticks store digits) ∧ Answered store rest :=
  List.forall_mem_cons

lemma becomes_cons_iff_of_gives (hgives : entry.Gives store v) :
    Becomes store ((key, entry) :: rest) values ↔
      ∃ others, values = (key, v) :: others ∧ Becomes store rest others := by
  constructor
  · rintro (_ | ⟨hw, hrest⟩ | ⟨hnothing, -⟩)
    · exact ⟨_, by rw [hw.unique hgives], hrest⟩
    · exact absurd ⟨v, hgives⟩ hnothing
  · rintro ⟨others, rfl, hrest⟩
    exact .kept hgives hrest

lemma becomes_cons_iff_of_not_present (hnothing : ¬entry.Present store) :
    Becomes store ((key, entry) :: rest) values ↔ Becomes store rest values := by
  refine ⟨?_, .dropped hnothing⟩
  rintro (_ | ⟨hgives, -⟩ | ⟨-, hrest⟩)
  · exact absurd ⟨_, hgives⟩ hnothing
  · exact hrest

/-- A payload is evaluated to what becomes of it, when all bindings have answers. -/
lemma evaluate_eq_ok_iff : evaluate store payload = .ok values ↔
    Answered store payload ∧ Becomes store payload values := by
  induction payload generalizing values with
  | nil =>
      constructor
      · intro hevaluate
        cases hevaluate
        exact ⟨nofun, .nil⟩
      · rintro ⟨-, ⟨⟩⟩
        rfl
  | cons m rest ih =>
      obtain ⟨key, entry⟩ := m
      rw [answered_cons_iff, evaluate]
      rcases hentry : entry.evaluate store with e | reached
      · have hsticks := PayloadEntry.evaluate_eq_error_iff.mp hentry
        exact iff_of_false nofun fun h => h.1.1 _ hsticks
      have hanswered : ∀ digits, ¬entry.Sticks store digits := fun digits hsticks => by
        simp [(PayloadEntry.evaluate_eq_error_iff (e := ⟨digits⟩)).mpr hsticks] at hentry
      rw [and_iff_right hanswered]
      rcases reached with _ | v
      · have hnothing : ¬entry.Present store := fun ⟨v, hv⟩ => by
          simp [PayloadEntry.evaluate_eq_ok_some_iff.mpr hv] at hentry
        rw [becomes_cons_iff_of_not_present hnothing, ← ih]
        rcases evaluate store rest <;> rfl
      · have hgives := PayloadEntry.evaluate_eq_ok_some_iff.mp hentry
        simp only [becomes_cons_iff_of_gives hgives, ← exists_and_left, and_left_comm, ← ih]
        rcases evaluate store rest with e | others
        · simp
        · simp [eq_comm]

/-- Null is kept, and what is not reached is left out. -/
example : evaluate [("a", .obj [("x", .null)])]
    [("kept", .bound ⟨"a", "x"⟩), ("left", .bound ⟨"a", "y"⟩)] = .ok [("kept", .null)] := by
  rfl

lemma exists_becomes (store : Store) (payload : Payload Value) :
    ∃ values, Becomes store payload values := by
  induction payload with
  | nil => exact ⟨[], .nil⟩
  | cons m rest ih =>
      obtain ⟨values, hrest⟩ := ih
      by_cases hpresent : m.2.Present store
      · obtain ⟨v, hv⟩ := hpresent
        exact ⟨_, .kept hv hrest⟩
      · exact ⟨values, .dropped hpresent hrest⟩

/-- A payload is evaluated exactly if all bindings have answers. -/
lemma exists_evaluate_iff :
    (∃ values, evaluate store payload = .ok values) ↔ Answered store payload := by
  simp only [evaluate_eq_ok_iff, exists_and_left, exists_becomes, and_true]

/-! ### The states that count -/

/-- A payload binds a component: it has an entry whose binding names it. -/
def Binds {α : Type} (payload : Payload α) (id : String) : Prop :=
  ∃ key path, (key, PayloadEntry.bound ⟨id, path⟩) ∈ payload

lemma resolve_congr {b : Binding} (hread : store.read b.component = other.read b.component) :
    resolve store b = resolve other b := by
  rw [resolve, resolve, hread]

/-- With the same states of what it binds, a payload is evaluated in the same way. -/
lemma evaluate_congr (hread : ∀ id, Binds payload id → store.read id = other.read id) :
    evaluate store payload = evaluate other payload := by
  induction payload with
  | nil => rfl
  | cons m rest ih =>
      obtain ⟨key, entry⟩ := m
      have hentry : entry.evaluate store = entry.evaluate other := by
        cases entry with
        | literal v => rfl
        | bound b => exact resolve_congr (hread _ ⟨key, b.path, List.mem_cons_self⟩)
      have hrest := ih fun id ⟨k, path, hmem⟩ => hread id ⟨k, path, List.mem_cons_of_mem _ hmem⟩
      rw [evaluate, evaluate, hentry, hrest]

/-- A payload binds the same components when its literals may be any values. -/
lemma binds_widen_iff {payload : Payload Scalar} {id : String} :
    Binds payload.widen id ↔ Binds payload id := by
  have hentry (entry : PayloadEntry Scalar) (b : Binding) :
      entry.map Scalar.toValue = .bound b ↔ entry = .bound b := by
    cases entry <;> simp [PayloadEntry.map]
  simp [Binds, Payload.widen, Members.mapValues, hentry]

end Payload

/-! ### A number with too many digits -/

/-- A path that is one number with too many digits sticks at a list. -/
lemma Reference.sticks_of_isHugeIndex {store : Store} {b : Binding} {items : List Value}
    {digits : ℕ} (hread : store.read b.component = some (.arr items))
    (hhuge : IsHugeIndex b.path digits) : (Reference.checked b).Sticks store digits := by
  obtain ⟨hdecimal, hlength, hlong⟩ := hhuge
  have hne : b.path ≠ "" := fun hempty => by simp [← hlength, hempty] at hlong
  have hpoint : '.' ∉ b.path.toList := fun hmem => by
    have hdigit := List.all_eq_true.mp (Bool.and_eq_true_iff.mp hdecimal).2 _ hmem
    exact absurd hdigit (by decide)
  have hpath : pathSteps b.path = [b.path] := by
    rw [pathSteps, if_neg hne, segments, List.splitOn_eq_singleton hpoint, List.map_singleton,
      String.ofList_toList]
  have hstate : Value.arr items ≠ .null := by simp
  exact ⟨.arr items, [b.path], ⟨_, _, .checked b, hread, hstate, hpath.symm⟩,
    [], b.path, [], items, rfl, .here _, hdecimal, hlength, hlong⟩

/-- A literal beside a binding to an index of one digit more than an integer may have, at a list
of one element. The binding reaches nothing, but it is not left out: there is no payload. -/
theorem unevaluated_of_longIndex :
    let store : Store := [("c", .arr [.int 0])]
    let b : Binding := ⟨"c", String.ofList (List.replicate (maxDigits + 1) '1')⟩
    let payload : Payload Value := [("kept", .literal (.int 1)), ("lost", .bound b)]
    (∀ v, ¬(Reference.checked b).Reaches store v) ∧
      ¬∃ values, evaluate store payload = .ok values := by
  intro store b payload
  have hhuge : IsHugeIndex b.path (maxDigits + 1) := by
    have hone : (decimalDigit? '1').isSome := by decide
    refine ⟨?_, ?_, Nat.lt_succ_self _⟩
    · simp [b, isDecimal, hone]
    · simp [b]
  have hsticks : (Reference.checked b).Sticks store (maxDigits + 1) :=
    Reference.sticks_of_isHugeIndex rfl hhuge
  constructor
  · intro v hreaches
    rw [← Reference.resolve_eq_ok_some_iff,
      (Reference.resolve_eq_error_iff (e := ⟨maxDigits + 1⟩)).mpr hsticks] at hreaches
    cases hreaches
  · rw [Payload.exists_evaluate_iff]
    exact fun hanswered => hanswered ("lost", .bound b) (by simp [payload]) _ (.bound hsticks)

end LivePage
