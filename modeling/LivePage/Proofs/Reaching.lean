/-
What bindings reach. A binding names a component and leads from its state through
members and elements; what it leads to is its value. It has no answer, neither a value
nor that there is none, when it comes to a list with more digits than an integer may
have.

* `Value.StepsTo`, `Value.Leads`, `Value.Sticks`: where steps lead, and where they end
  without an answer;
* `Reference`: a binding, or an object that is taken for one unchecked;
* `Reference.Reaches`, `Reference.Sticks`: the same for what a reference names in a
  store;
* `resolve_answered`: what references reach;
* `unanswered_of_longIndex`: an index too long for an integer.
-/
import LivePage.Resolution
import Mathlib.Tactic

namespace LivePage

open Json

/-! ### Steps through values -/

/-- A segment is spelled as a number, but with more digits than an integer may have. -/
def IsHugeIndex (segment : String) (digits : ℕ) : Prop :=
  isDecimal segment.toList ∧ segment.length = digits ∧ maxDigits < digits

namespace Value

/-- One step, to the member under a name or to the element with a number. -/
inductive StepsTo : Value → String → Value → Prop
  | member {members : Members Value} {key : String} {v : Value}
      (hget : members.get? key = some v) : StepsTo (.obj members) key v
  | element {items : List Value} {segment : String} {v : Value}
      (hdigits : isDecimal segment.toList) (hlength : segment.length ≤ maxDigits)
      (hget : items[decimalValue segment.toList]? = some v) : StepsTo (.arr items) segment v

/-- Steps lead from one value to another. -/
inductive Leads : Value → List String → Value → Prop
  | here (v : Value) : Leads v [] v
  | step {v next w : Value} {segment : String} {rest : List String}
      (hstep : v.StepsTo segment next) (hrest : Leads next rest w) : Leads v (segment :: rest) w

/-- Some of the steps lead to a list, and the next one is a number with too many digits. -/
def Sticks (v : Value) (path : List String) (digits : ℕ) : Prop :=
  ∃ before segment after items, path = before ++ segment :: after ∧
    v.Leads before (.arr items) ∧ IsHugeIndex segment digits

section

variable {v w next : Value} {segment : String} {rest path : List String} {digits : ℕ}

lemma leads_nil_iff : v.Leads [] w ↔ w = v := by
  constructor
  · rintro ⟨⟩
    rfl
  · rintro rfl
    exact .here _

lemma leads_cons_iff :
    v.Leads (segment :: rest) w ↔ ∃ next, v.StepsTo segment next ∧ next.Leads rest w := by
  constructor
  · rintro (_ | ⟨hstep, hrest⟩)
    exact ⟨_, hstep, hrest⟩
  · rintro ⟨next, hstep, hrest⟩
    exact .step hstep hrest

lemma not_sticks_nil : ¬v.Sticks [] digits := by
  rintro ⟨before, segment, after, items, hpath, -⟩
  simp at hpath

lemma sticks_cons_iff :
    v.Sticks (segment :: rest) digits ↔
      (∃ items, v = .arr items ∧ IsHugeIndex segment digits) ∨
        ∃ next, v.StepsTo segment next ∧ next.Sticks rest digits := by
  constructor
  · rintro ⟨_ | ⟨first, before⟩, huge, after, items, hpath, hleads, hhuge⟩
    · obtain ⟨rfl, rfl⟩ := List.cons.inj hpath
      exact .inl ⟨items, (leads_nil_iff.mp hleads).symm, hhuge⟩
    · obtain ⟨rfl, rfl⟩ := List.cons.inj hpath
      obtain ⟨next, hstep, hrest⟩ := leads_cons_iff.mp hleads
      exact .inr ⟨next, hstep, before, huge, after, items, rfl, hrest, hhuge⟩
  · rintro (⟨items, rfl, hhuge⟩ | ⟨next, hstep, before, huge, after, items, rfl, hrest, hhuge⟩)
    · exact ⟨[], segment, rest, items, rfl, .here _, hhuge⟩
    · exact ⟨segment :: before, huge, after, items, rfl, .step hstep hrest, hhuge⟩

/-- The digits are those of one of the segments. -/
lemma Sticks.exists_segment (hsticks : v.Sticks path digits) :
    ∃ segment ∈ path, IsHugeIndex segment digits := by
  obtain ⟨before, segment, after, items, rfl, -, hhuge⟩ := hsticks
  exact ⟨segment, by simp, hhuge⟩

/-! ### The walk along a path -/

lemma step_arr_of_not_isDecimal {items : List Value} (hdigits : ¬isDecimal segment.toList) :
    step (.arr items) segment = .ok none := by
  simp [step, hdigits]

lemma step_arr_of_short {items : List Value} (hdigits : isDecimal segment.toList)
    (hlength : segment.length ≤ maxDigits) :
    step (.arr items) segment = .ok items[decimalValue segment.toList]? := by
  simp [step, hdigits, String.length_toList, not_lt.mpr hlength]

lemma step_arr_of_long {items : List Value} (hdigits : isDecimal segment.toList)
    (hlength : maxDigits < segment.length) :
    step (.arr items) segment = .error ⟨segment.length⟩ := by
  simp [step, hdigits, String.length_toList, hlength]

lemma step_eq_ok_some_iff : step v segment = .ok (some next) ↔ v.StepsTo segment next := by
  constructor
  · intro hstep
    cases v with
    | obj members => exact .member (Except.ok.inj hstep)
    | arr items =>
        by_cases hdigits : isDecimal segment.toList
        · by_cases hlength : segment.length ≤ maxDigits
          · rw [step_arr_of_short hdigits hlength] at hstep
            exact .element hdigits hlength (Except.ok.inj hstep)
          · rw [step_arr_of_long hdigits (not_le.mp hlength)] at hstep
            cases hstep
        · rw [step_arr_of_not_isDecimal hdigits] at hstep
          cases hstep
    | _ => cases hstep
  · rintro (hget | ⟨hdigits, hlength, hget⟩)
    · exact congrArg Except.ok hget
    · rw [step_arr_of_short hdigits hlength, hget]

lemma step_eq_error_iff {e : HugeIndex} :
    step v segment = .error e ↔ ∃ items, v = .arr items ∧ IsHugeIndex segment e.digits := by
  constructor
  · intro hstep
    cases v with
    | arr items =>
        by_cases hdigits : isDecimal segment.toList
        · by_cases hlength : segment.length ≤ maxDigits
          · rw [step_arr_of_short hdigits hlength] at hstep
            cases hstep
          · rw [step_arr_of_long hdigits (not_le.mp hlength)] at hstep
            cases hstep
            exact ⟨items, rfl, hdigits, rfl, not_le.mp hlength⟩
        · rw [step_arr_of_not_isDecimal hdigits] at hstep
          cases hstep
    | _ => cases hstep
  · rintro ⟨items, rfl, hdigits, hlength, hlong⟩
    rw [step_arr_of_long hdigits (hlength ▸ hlong), hlength]

/-- A walk ends where its steps lead. -/
lemma walk_eq_ok_some_iff : walk v path = .ok (some w) ↔ v.Leads path w := by
  induction path generalizing v with
  | nil => simp [walk, leads_nil_iff, eq_comm]
  | cons segment rest ih =>
      rw [walk, leads_cons_iff]
      rcases hstep : step v segment with e | _ | next
      · simp [← step_eq_ok_some_iff, hstep]
      · simp [← step_eq_ok_some_iff, hstep]
      · simp [← step_eq_ok_some_iff, hstep, ih]

/-- A walk fails where its steps stick. -/
lemma walk_eq_error_iff {e : HugeIndex} : walk v path = .error e ↔ v.Sticks path e.digits := by
  induction path generalizing v with
  | nil => simp [walk, not_sticks_nil]
  | cons segment rest ih =>
      rw [walk, sticks_cons_iff, ← step_eq_error_iff]
      rcases hstep : step v segment with cause | _ | next
      · simp [← step_eq_ok_some_iff, hstep]
      · simp [← step_eq_ok_some_iff, hstep]
      · simp [← step_eq_ok_some_iff, hstep, ih]

end

end Value

/-! ### Paths -/

/-- The steps of a path. The empty path has none. -/
def pathSteps (path : String) : List String := if path = "" then [] else segments path

lemma length_le_of_mem_splitOnP {α : Type} {p : α → Bool} {xs part : List α}
    (hpart : part ∈ xs.splitOnP p) : part.length ≤ xs.length := by
  induction xs generalizing part with
  | nil => simp_all
  | cons x rest ih =>
      rw [List.splitOnP_cons_eq_if_modifyHead] at hpart
      by_cases hx : p x
      · rw [if_pos hx, List.mem_cons] at hpart
        rcases hpart with rfl | hrest
        · simp
        · exact (ih hrest).trans (Nat.le_succ _)
      · rw [if_neg hx] at hpart
        rcases hsplit : rest.splitOnP p with _ | ⟨first, others⟩
        · simp [hsplit] at hpart
        · rw [hsplit, List.modifyHead_cons, List.mem_cons] at hpart
          rcases hpart with rfl | hothers
          · exact Nat.succ_le_succ (ih (by simp [hsplit]))
          · exact (ih (by simp [hsplit, hothers])).trans (Nat.le_succ _)

lemma length_le_of_mem_pathSteps {path segment : String} (hsegment : segment ∈ pathSteps path) :
    segment.length ≤ path.length := by
  rw [pathSteps] at hsegment
  split at hsegment
  · simp at hsegment
  · obtain ⟨part, hpart, rfl⟩ := List.mem_map.mp hsegment
    rw [String.length_ofList, ← String.length_toList]
    exact length_le_of_mem_splitOnP hpart

/-! ### References -/

/-- What may be followed into a store: a binding, or an object that is taken for one unchecked,
with any values under its names. -/
inductive Reference
  | checked (binding : Binding)
  | unchecked (members : Members Value)

namespace Reference

variable {store : Store} {r : Reference} {v : Value} {digits : ℕ}

/-- What a reference reaches. -/
def resolve (store : Store) : Reference → Reached
  | .checked binding => LivePage.resolve store binding
  | .unchecked members => resolveMembers store members

/-- The component and the path that a reference names. Both must be texts, but what does not count
for a path stands for the empty one, and so does a path that is not there. -/
inductive Names : Reference → String → String → Prop
  | checked (binding : Binding) : Names (.checked binding) binding.component binding.path
  | path {members : Members Value} {component path : String}
      (hcomponent : members.get? "component" = some (.str component))
      (hpath : members.get? "path" = some (.str path)) :
      Names (.unchecked members) component path
  | noPath {members : Members Value} {component : String}
      (hcomponent : members.get? "component" = some (.str component))
      (hpath : ∀ v, members.get? "path" = some v → v.isTruthy = false) :
      Names (.unchecked members) component ""

/-- A reference starts at the state of the component that it names, which is not null, with the
steps of its path before it. -/
def Starts (store : Store) (r : Reference) (state : Value) (path : List String) : Prop :=
  ∃ component text, r.Names component text ∧ store.read component = some state ∧
    state ≠ .null ∧ path = pathSteps text

/-- A reference reaches a value of the store. -/
def Reaches (store : Store) (r : Reference) (v : Value) : Prop :=
  ∃ state path, r.Starts store state path ∧ state.Leads path v

/-- A reference comes to a list with a number of too many digits. -/
def Sticks (store : Store) (r : Reference) (digits : ℕ) : Prop :=
  ∃ state path, r.Starts store state path ∧ state.Sticks path digits

/-- What there is to say of the answer to a reference: it is the value that is reached, or that
none is, unless the reference sticks. -/
structure Answered (store : Store) (r : Reference) : Prop where
  value_iff : ∀ v, r.resolve store = .ok (some v) ↔ r.Reaches store v
  nothing_iff : r.resolve store = .ok none ↔
    (∀ v, ¬r.Reaches store v) ∧ ∀ digits, ¬r.Sticks store digits
  error_iff : ∀ e, r.resolve store = .error e ↔ r.Sticks store e.digits
  /-- A path that is no longer than an integer is always followed. -/
  of_short : (∀ component path, r.Names component path → path.length ≤ maxDigits) →
    ∃ reached, r.resolve store = .ok reached

/-- The binding that a reference is, or is taken for. -/
def binding? : Reference → Option Binding
  | .checked binding => some binding
  | .unchecked members => Binding.ofMembers? members

/-- An object that has a text for its component is taken for a binding by what it has for a path. -/
lemma ofMembers?_eq_some_iff {members : Members Value} {component path : String}
    (hcomponent : members.get? "component" = some (.str component)) :
    Binding.ofMembers? members = some ⟨component, path⟩ ↔
      members.get? "path" = some (.str path) ∨
        path = "" ∧ ∀ v, members.get? "path" = some v → v.isTruthy = false := by
  rw [Binding.ofMembers?, hcomponent]
  rcases members.get? "path" with _ | v
  · simp [@eq_comm _ ""]
  · cases v with
    | str text =>
        -- the empty text is the only one that does not count, and it is the empty path
        have hempty : path = "" → text = "" → text = path := fun hp ht => ht.trans hp.symm
        simpa [Value.isTruthy] using hempty
    | bool b => cases b <;> simp [@eq_comm _ "", Value.isTruthy]
    | _ => simp [@eq_comm _ "", Value.isTruthy, and_comm]

/-- An object is taken for the binding that it names. -/
lemma names_unchecked_iff {members : Members Value} {component path : String} :
    (unchecked members).Names component path ↔
      Binding.ofMembers? members = some ⟨component, path⟩ := by
  constructor
  · rintro (_ | ⟨hcomponent, hpath⟩ | ⟨hcomponent, hpath⟩)
    · exact (ofMembers?_eq_some_iff hcomponent).mpr (.inl hpath)
    · exact (ofMembers?_eq_some_iff hcomponent).mpr (.inr ⟨rfl, hpath⟩)
  · intro hbinding
    have hcomponent : members.get? "component" = some (.str component) := by
      rw [Binding.ofMembers?] at hbinding
      split at hbinding <;> simp_all
    obtain hpath | ⟨rfl, hpath⟩ := (ofMembers?_eq_some_iff hcomponent).mp hbinding
    · exact .path hcomponent hpath
    · exact .noPath hcomponent hpath

lemma names_iff {component path : String} :
    r.Names component path ↔ r.binding? = some ⟨component, path⟩ := by
  cases r with
  | checked binding =>
      obtain ⟨c, p⟩ := binding
      constructor
      · rintro ⟨⟩
        rfl
      · intro hbinding
        obtain ⟨rfl, rfl⟩ : c = component ∧ p = path := by simpa [binding?] using hbinding
        exact .checked _
  | unchecked members => exact names_unchecked_iff

lemma resolve_eq (store : Store) (r : Reference) :
    r.resolve store = (r.binding?.map (LivePage.resolve store)).getD (.ok none) := by
  cases r with
  | checked binding => rfl
  | unchecked members =>
      rw [resolve, resolveMembers, binding?]
      cases Binding.ofMembers? members <;> rfl

/-- A binding is followed from the state of its component along the steps of its path. -/
lemma resolve_eq_walk {b : Binding} {state : Value} (hread : store.read b.component = some state)
    (hstate : state ≠ .null) : LivePage.resolve store b = walk state (pathSteps b.path) := by
  rw [LivePage.resolve, hread, pathSteps]
  by_cases hpath : b.path = ""
  · cases state <;> simp_all [walk]
  · cases state <;> simp_all

lemma resolve_of_unread {b : Binding} (hread : ∀ state, store.read b.component = some state →
    state = .null) : LivePage.resolve store b = .ok none := by
  rw [LivePage.resolve]
  rcases hstate : store.read b.component with _ | state
  · rfl
  · rw [hread state hstate]

/-- Where a reference starts decides what it comes to. -/
lemma resolve_cases (store : Store) (r : Reference) :
    (∃ state path, (∀ other rest, r.Starts store other rest ↔ other = state ∧ rest = path) ∧
        r.resolve store = walk state path) ∨
      (∀ state path, ¬r.Starts store state path) ∧ r.resolve store = .ok none := by
  rw [resolve_eq]
  rcases hbinding : r.binding? with _ | b
  · refine .inr ⟨?_, rfl⟩
    rintro state path ⟨component, text, hnames, -⟩
    rw [names_iff, hbinding] at hnames
    cases hnames
  · have hnames (component text : String) :
        r.Names component text ↔ b = ⟨component, text⟩ := by
      rw [names_iff, hbinding, Option.some.injEq]
    by_cases hread : ∃ state, store.read b.component = some state ∧ state ≠ .null
    · obtain ⟨state, hread, hstate⟩ := hread
      refine .inl ⟨state, pathSteps b.path, fun other rest => ⟨?_, ?_⟩,
        resolve_eq_walk hread hstate⟩
      · rintro ⟨component, text, hname, hother, -, rfl⟩
        rw [hnames] at hname
        subst hname
        exact ⟨Option.some.inj (hother.symm.trans hread), rfl⟩
      · rintro ⟨rfl, rfl⟩
        exact ⟨_, _, (hnames _ _).mpr rfl, hread, hstate, rfl⟩
    · push Not at hread
      refine .inr ⟨?_, resolve_of_unread hread⟩
      rintro state path ⟨component, text, hname, hother, hstate, -⟩
      rw [hnames] at hname
      subst hname
      exact hstate (hread state hother)

lemma resolve_eq_ok_some_iff : r.resolve store = .ok (some v) ↔ r.Reaches store v := by
  rcases r.resolve_cases store with ⟨state, path, hstarts, hwalk⟩ | ⟨hstarts, hnothing⟩
  · simp [hwalk, Reaches, hstarts, Value.walk_eq_ok_some_iff]
  · simp [hnothing, Reaches, hstarts]

lemma resolve_eq_error_iff {e : HugeIndex} :
    r.resolve store = .error e ↔ r.Sticks store e.digits := by
  rcases r.resolve_cases store with ⟨state, path, hstarts, hwalk⟩ | ⟨hstarts, hnothing⟩
  · simp [hwalk, Sticks, hstarts, Value.walk_eq_error_iff]
  · simp [hnothing, Sticks, hstarts]

lemma Sticks.exists_segment (hsticks : r.Sticks store digits) :
    ∃ component path segment, r.Names component path ∧ segment ∈ pathSteps path ∧
      IsHugeIndex segment digits := by
  obtain ⟨state, _, ⟨component, path, hnames, -, -, rfl⟩, hsticks⟩ := hsticks
  obtain ⟨segment, hsegment, hhuge⟩ := hsticks.exists_segment
  exact ⟨component, path, segment, hnames, hsegment, hhuge⟩

end Reference

/-- **What references reach.** A binding, or any object that is taken for one, has the value for an
answer to which its path leads in the store, or that there is none. Only where the path comes to a
list with a number of too many digits, there is no answer. -/
theorem resolve_answered (store : Store) (r : Reference) : r.Answered store := by
  refine ⟨fun _ => Reference.resolve_eq_ok_some_iff, ?_, fun _ => Reference.resolve_eq_error_iff,
    fun hshort => ?_⟩
  · have hsticks (digits : ℕ) : r.Sticks store digits ↔ r.resolve store = .error ⟨digits⟩ :=
      Reference.resolve_eq_error_iff.symm
    simp only [← Reference.resolve_eq_ok_some_iff, hsticks]
    rcases r.resolve store with e | _ | v
    · simpa using ⟨e.digits, rfl⟩
    · simp
    · simp
  · rcases hanswer : r.resolve store with e | reached
    · obtain ⟨component, path, segment, hnames, hsegment, -, hlength, hlong⟩ :=
        (Reference.resolve_eq_error_iff.mp hanswer).exists_segment
      have hpath := hshort component path hnames
      have hle := length_le_of_mem_pathSteps hsegment
      omega
    · exact ⟨reached, rfl⟩

/-- An index of one digit more than an integer may have, at a list of one element. There is no
answer to it, though there is no such element. -/
theorem unanswered_of_longIndex :
    let store : Store := [("c", .arr [.int 0])]
    let digits := String.ofList (List.replicate (maxDigits + 1) '1')
    ¬∃ reached, (Reference.checked ⟨"c", digits⟩).resolve store = .ok reached := by
  intro store digits
  have hdigits : digits.toList = List.replicate (maxDigits + 1) '1' := String.toList_ofList
  have hlength : digits.length = maxDigits + 1 := by
    rw [← String.length_toList, hdigits, List.length_replicate]
  have hdecimal : isDecimal digits.toList := by
    have hone : (decimalDigit? '1').isSome := by decide
    simp [isDecimal, hdigits, hone]
  have hpath : pathSteps digits = [digits] := by
    have hne : digits ≠ "" := fun h => by simp [h] at hlength
    have hpoint : '.' ∉ List.replicate (maxDigits + 1) '1' := by simp
    rw [pathSteps, if_neg hne, segments, hdigits, List.splitOn_eq_singleton hpoint]
    rfl
  have hsticks : (Reference.checked ⟨"c", digits⟩).Sticks store (maxDigits + 1) := by
    refine ⟨.arr [.int 0], [digits], ⟨_, _, .checked _, rfl, nofun, hpath.symm⟩, ?_⟩
    exact ⟨[], digits, [], [.int 0], rfl, .here _, hdecimal, hlength, Nat.lt_succ_self _⟩
  rw [(Reference.resolve_eq_error_iff (e := ⟨maxDigits + 1⟩)).mpr hsticks]
  simp

end LivePage
