/-
What is written of a value is read back as that value, in compact text and in
indented text alike.

* `Value.mapDoubles`: a value with others in place of its doubles;
* `Json.Writes`: a writer puts a text of some kind in front of what follows;
* `Json.writes_write`, `Json.writes_writeIndented`: both writers put a text that
  is read back;
* `Json.decode_written`: compact and indented texts, and the bodies of requests;
* `Json.decode_of_long`: integers that are written and not read back.
-/
import LivePage.Http.Client
import LivePage.Proofs.JsonReading
import LivePage.Proofs.Nesting
import LivePage.Proofs.Writings

namespace LivePage

namespace Value

/-! ### Doubles inside values -/

mutual

/-- A value with another one in place of each double. -/
def mapDoubles (f : Double → Value) : Value → Value
  | .num x => f x
  | .arr items => .arr (itemsMapDoubles f items)
  | .obj members => .obj (membersMapDoubles f members)
  | v => v
  termination_by structural v => v

def itemsMapDoubles (f : Double → Value) : List Value → List Value
  | [] => []
  | v :: rest => mapDoubles f v :: itemsMapDoubles f rest
  termination_by structural items => items

def membersMapDoubles (f : Double → Value) : List (String × Value) → List (String × Value)
  | [] => []
  | (key, v) :: rest => (key, mapDoubles f v) :: membersMapDoubles f rest
  termination_by structural members => members

end

section

variable {f : Double → Value}

lemma mapDoubles_arr (items : List Value) :
    mapDoubles f (.arr items) = .arr (items.map (mapDoubles f)) := by
  rw [mapDoubles]
  congr 1
  induction items with
  | nil => rfl
  | cons v rest ih => rw [itemsMapDoubles, ih, List.map_cons]

lemma mapDoubles_obj (members : Members Value) :
    mapDoubles f (.obj members) = .obj (members.mapValues (mapDoubles f)) := by
  rw [mapDoubles]
  congr 1
  induction members with
  | nil => rfl
  | cons m rest ih =>
      rw [membersMapDoubles, ih]
      rfl

/-- Nothing changes if no double does. -/
lemma mapDoubles_eq_self {v : Value}
    (h : v.Throughout fun part => ∀ x, part = .num x → f x = .num x) : v.mapDoubles f = v := by
  induction v using ind with
  | num x => exact h.self x rfl
  | arr items ih =>
      have hitems : items.map (mapDoubles f) = items.map id :=
        List.map_congr_left fun v hv => ih v hv (h.item hv)
      rw [mapDoubles_arr, hitems, List.map_id]
  | obj members ih =>
      have hmembers : members.map (fun m => (m.1, m.2.mapDoubles f)) = members.map id :=
        List.map_congr_left fun m hm => Prod.ext rfl (ih m hm (h.member hm))
      rw [mapDoubles_obj, Members.mapValues, hmembers, List.map_id]
  | _ => rfl

end

end Value

namespace Json

open Utf8 Value

/-! ### What writers put -/

/-- A writer puts a text of some kind in front of what follows. -/
def Writes (writer : List Char → List Char) (P : List Char → Prop) : Prop :=
  ∃ cs, (∀ rest, writer rest = cs ++ rest) ∧ P cs

/-- A part that can be told from its text, in which a double `x` stands for `f x`: integers are not
too long, and names are not repeated. -/
def Told (dialect : Dialect) (numbers : NumberLayout) (f : Double → Value) : Value → Prop
  | .int n => dialect.Admits n
  | .num x => Rereads dialect (f x) (x.write numbers).toList
  | .obj members => (Members.keys members).Nodup
  | _ => True

section

variable {dialect : Dialect} {numbers : NumberLayout} {f : Double → Value} {v : Value}
  {items : List Value} {members : Members Value} {width level : ℕ}

/-- A plain value is read back. -/
lemma rereads_writePlain (hv : Told dialect numbers f v) (harr : ∀ items, v ≠ .arr items)
    (hobj : ∀ members, v ≠ .obj members) :
    Rereads dialect (v.mapDoubles f) (writePlain numbers v) := by
  cases v with
  | null => exact rereads_null
  | bool b => cases b <;> [exact rereads_false; exact rereads_true]
  | int n =>
      rw [writePlain, ← Numeral.chars_ofInt]
      exact rereads_numeral ((Numeral.value_ofInt dialect n).1 hv)
  | num x => exact hv
  | str s => exact rereads_quote s
  | arr items => exact absurd rfl (harr items)
  | obj members => exact absurd rfl (hobj members)

/-! ### Elements and members -/

section

variable {before after colon : List Char} (hbefore : IsBlank before) (hafter : IsBlank after)

include hbefore hafter

/-- Elements are put one after the other, with the same blanks around each. -/
lemma writes_items (writer : Value → List Char → List Char)
    (itemsWriter : List Value → List Char → List Char)
    (hcons : ∀ v others rest, itemsWriter (v :: others) rest =
      before ++ writer v (if others.isEmpty then after ++ ']' :: rest
        else ',' :: itemsWriter others rest))
    (hitems : ∀ v ∈ items, Writes (writer v) (Rereads dialect (v.mapDoubles f)))
    (hne : items ≠ []) :
    Writes (itemsWriter items) (RereadsItems dialect (items.map (mapDoubles f))) := by
  induction items with
  | nil => exact absurd rfl hne
  | cons v others ih =>
      obtain ⟨⟨cs, hwrite, hread⟩, hothers⟩ := List.forall_mem_cons.mp hitems
      cases others with
      | nil =>
          refine ⟨_, fun rest => ?_, .last hbefore hread hafter⟩
          rw [hcons, List.isEmpty_nil, if_pos rfl, hwrite]
          simp only [List.append_assoc, List.singleton_append]
      | cons w more =>
          obtain ⟨ds, hwriteOthers, hreadOthers⟩ := ih hothers (List.cons_ne_nil w more)
          refine ⟨_, fun rest => ?_, .cons hbefore hread isBlank_nil hreadOthers⟩
          rw [hcons, List.isEmpty_cons, if_neg Bool.false_ne_true, hwrite, hwriteOthers]
          simp only [List.append_assoc, List.nil_append, List.cons_append]

/-- Members are put one after the other, with the same blanks around each. -/
lemma writes_members (hcolon : IsBlank colon) (writer : Value → List Char → List Char)
    (membersWriter : Members Value → List Char → List Char)
    (hcons : ∀ key v others rest, membersWriter ((key, v) :: others) rest =
      before ++ (quote key ++ ':' :: (colon ++ writer v
        (if others.isEmpty then after ++ '\x7d' :: rest else ',' :: membersWriter others rest))))
    (hmembers : ∀ m ∈ members, Writes (writer m.2) (Rereads dialect (m.2.mapDoubles f)))
    (hne : members ≠ []) :
    Writes (membersWriter members) (RereadsMembers dialect (members.mapValues (mapDoubles f))) := by
  induction members with
  | nil => exact absurd rfl hne
  | cons m others ih =>
      obtain ⟨key, v⟩ := m
      obtain ⟨⟨cs, hwrite, hread⟩, hothers⟩ := List.forall_mem_cons.mp hmembers
      cases others with
      | nil =>
          refine ⟨_, fun rest => ?_, .last hbefore hcolon hread hafter⟩
          rw [hcons, List.isEmpty_nil, if_pos rfl, hwrite]
          simp only [List.append_assoc, List.cons_append, List.nil_append]
      | cons w more =>
          obtain ⟨ds, hwriteOthers, hreadOthers⟩ := ih hothers (List.cons_ne_nil w more)
          refine ⟨_, fun rest => ?_, .cons hbefore hcolon hread isBlank_nil hreadOthers⟩
          rw [hcons, List.isEmpty_cons, if_neg Bool.false_ne_true, hwrite, hwriteOthers]
          simp only [List.append_assoc, List.nil_append, List.cons_append]

end

lemma writes_arr {itemsWriter : List Char → List Char}
    (hitems : Writes itemsWriter (RereadsItems dialect (items.map (mapDoubles f)))) :
    Writes (fun rest => '[' :: itemsWriter rest) (Rereads dialect (mapDoubles f (.arr items))) := by
  obtain ⟨cs, hwrite, hread⟩ := hitems
  refine ⟨'[' :: cs, fun rest => congrArg _ (hwrite rest), ?_⟩
  rw [mapDoubles_arr]
  exact rereads_arr hread

lemma writes_obj {membersWriter : List Char → List Char} (hkeys : (Members.keys members).Nodup)
    (hmembers : Writes membersWriter
      (RereadsMembers dialect (Members.mapValues (mapDoubles f) members))) :
    Writes (fun rest => '\x7b' :: membersWriter rest)
      (Rereads dialect (mapDoubles f (.obj members))) := by
  obtain ⟨cs, hwrite, hread⟩ := hmembers
  refine ⟨'\x7b' :: cs, fun rest => congrArg _ (hwrite rest), ?_⟩
  rw [← Members.keys_mapValues (mapDoubles f)] at hkeys
  rw [mapDoubles_obj]
  exact rereads_obj hkeys hread

/-! ### Compact and indented text -/

/-- **Compact text is read back.** -/
theorem writes_write (hv : v.Throughout (Told dialect numbers f)) :
    Writes (write numbers v) (Rereads dialect (v.mapDoubles f)) := by
  induction v using Value.ind with
  | arr items ih =>
      rcases eq_or_ne items [] with rfl | hne
      · exact ⟨['[', ']'], fun _ => rfl, rereads_emptyArr⟩
      · refine writes_arr (writes_items isBlank_nil isBlank_nil (write numbers)
          (writeItems numbers) ?_ (fun v hitem => ih v hitem (hv.item hitem)) hne)
        intro v others rest
        cases others <;> rfl
  | obj members ih =>
      rcases eq_or_ne members [] with rfl | hne
      · exact ⟨['\x7b', '\x7d'], fun _ => rfl, rereads_emptyObj⟩
      · refine writes_obj hv.self (writes_members isBlank_nil isBlank_nil isBlank_nil
          (write numbers) (writeMembers numbers) ?_ (fun m hm => ih m hm (hv.member hm)) hne)
        intro key v others rest
        cases others <;> rfl
  | _ => exact ⟨_, fun _ => rfl, rereads_writePlain hv.self (by simp) (by simp)⟩

lemma isBlank_newLine (width level : ℕ) : IsBlank (newLine width level) := by
  intro c hc
  rcases List.mem_cons.mp hc with rfl | hspace
  · decide
  · rw [List.eq_of_mem_replicate hspace]
    decide

/-- **Indented text is read back**, at any indentation. -/
theorem writes_writeIndented (hv : v.Throughout (Told dialect .pretty f)) :
    Writes (writeIndented width level v) (Rereads dialect (v.mapDoubles f)) := by
  induction v using Value.ind generalizing level with
  | arr items ih =>
      rcases items with _ | ⟨first, others⟩
      · exact ⟨['[', ']'], fun _ => rfl, rereads_emptyArr⟩
      · refine writes_arr (writes_items (isBlank_newLine width (level + 1))
          (isBlank_newLine width level) (writeIndented width (level + 1))
          (fun items rest => writeIndentedItems width level items
            (newLine width level ++ ']' :: rest)) ?_
          (fun v hitem => ih v hitem (hv.item hitem)) (List.cons_ne_nil first others))
        intro v others rest
        cases others <;> rfl
  | obj members ih =>
      rcases members with _ | ⟨first, others⟩
      · exact ⟨['\x7b', '\x7d'], fun _ => rfl, rereads_emptyObj⟩
      · have hcolon : IsBlank [' '] := by simp [IsBlank]
        refine writes_obj hv.self (writes_members (isBlank_newLine width (level + 1))
          (isBlank_newLine width level) hcolon (writeIndented width (level + 1))
          (fun members rest => writeIndentedMembers width level members
            (newLine width level ++ '\x7d' :: rest)) ?_
          (fun m hm => ih m hm (hv.member hm)) (List.cons_ne_nil first others))
        intro key v others rest
        cases others <;> simp [writeIndentedMembers]
  | _ => exact ⟨_, fun _ => rfl, rereads_writePlain hv.self (by simp) (by simp)⟩

/-- A text that is put is one input that is read. -/
lemma Writes.read {writer : List Char → List Char} (h : Writes writer (Rereads dialect v)) :
    Json.read dialect (Utf8.encode (String.ofList (writer []))) = .ok v := by
  obtain ⟨cs, hwrite, hread⟩ := h
  rw [hwrite, List.append_nil, encode_ofList]
  exact read_of_rereads hread

end

lemma decode_of_read {text : String} {v : Value} (h : read .strict (Utf8.encode text) = .ok v)
    (repairing : Bool) : decode repairing (.text text) = .ok v := by
  rw [Writing.decode_ofString, decodeBytes, h]

/-! ### Values without doubles -/

/-- A part that any text carries: an integer of which the text, with its sign, has at most
`maxDigits` characters, an object in which no name is repeated, and no double. -/
def Carried : Value → Prop
  | .int n => (toString n).length ≤ maxDigits
  | .num _ => False
  | .obj members => (Members.keys members).Nodup
  | _ => True

section

variable {dialect : Dialect} {numbers : NumberLayout} {f : Double → Value} {v : Value}

lemma told_of_carried (hv : Carried v) : Told .strict numbers f v := by
  cases v with
  | int n => exact Numeral.admits_strict_iff.mpr hv
  | num x => exact absurd hv id
  | _ => exact hv

lemma mapDoubles_of_carried (hv : v.Throughout Carried) : v.mapDoubles f = v :=
  mapDoubles_eq_self <| hv.mono fun part hpart x hx => by
    rw [hx] at hpart
    exact absurd hpart id

lemma itemsHaveHugeInteger_eq_any (items : List Value) :
    itemsHaveHugeInteger items = items.any hasHugeInteger := by
  induction items with
  | nil => rfl
  | cons v rest ih => rw [itemsHaveHugeInteger, ih, List.any_cons]

lemma membersHaveHugeInteger_eq_any (members : Members Value) :
    membersHaveHugeInteger members = members.any fun m => hasHugeInteger m.2 := by
  induction members with
  | nil => rfl
  | cons m rest ih => rw [membersHaveHugeInteger, ih, List.any_cons]

lemma hasHugeInteger_int_eq_false_iff {n : ℤ} :
    hasHugeInteger (.int n) = false ↔ n.natAbs < 10 ^ maxDigits := by
  rw [hasHugeInteger, decide_eq_false_iff_not, not_le, Nat.pow_eq]

/-- No integer is too long to be written exactly if none is throughout. -/
lemma hasHugeInteger_eq_false_iff : hasHugeInteger v = false ↔
    v.Throughout fun part => ∀ n, part = .int n → n.natAbs < 10 ^ maxDigits := by
  induction v using Value.ind with
  | int n =>
      rw [hasHugeInteger_int_eq_false_iff, throughout_plain_iff _ (by simp) (by simp)]
      simp
  | arr items ih =>
      rw [hasHugeInteger, itemsHaveHugeInteger_eq_any, List.any_eq_false, throughout_arr_iff]
      simp only [Bool.not_eq_true, reduceCtorEq, IsEmpty.forall_iff, implies_true, true_and]
      exact forall₂_congr fun v hv => ih v hv
  | obj members ih =>
      rw [hasHugeInteger, membersHaveHugeInteger_eq_any, List.any_eq_false, throughout_obj_iff]
      simp only [Bool.not_eq_true, reduceCtorEq, IsEmpty.forall_iff, implies_true, true_and]
      exact forall₂_congr fun m hm => ih m hm
  | _ => simp [hasHugeInteger, throughout_plain_iff]

lemma compact?_eq_ok
    (hv : v.Throughout fun part => ∀ n, part = .int n → n.natAbs < 10 ^ maxDigits) :
    compact? v = .ok (compact v) := by
  rw [compact?, hasHugeInteger_eq_false_iff.mpr hv, if_neg Bool.false_ne_true]

/-- Every request but a `GET` carries the compact text of its payload. -/
lemma body_eq_ok {r : Request} {text : String} (hmethod : r.method ≠ .str "GET")
    (hpayload : r.payload.getD (.obj []) = v) (htext : compact? v = .ok text) :
    r.body = .ok (some text) := by
  have hget : (r.method.str? == some "GET") = false := by
    rcases hr : r.method with _ | _ | _ | _ | s | _ | _ <;> simp_all [Value.str?]
  rw [Request.body, hget, if_neg Bool.false_ne_true, hpayload, htext]
  rfl

/-- **What is written is read back.** A value without doubles is read back from its compact text,
whichever layout that is in, from its indented text, whatever the indentation, and from the body of
each request that carries it. -/
theorem decode_written (hv : v.Throughout Carried) (repairing : Bool) :
    (∃ text, compact? v = .ok text ∧ decode repairing (.text text) = .ok v) ∧
    (∀ numbers, decode repairing (.text (String.ofList (write numbers v []))) = .ok v) ∧
    (∀ width, decode repairing (.text (indented width v)) = .ok v) ∧
    ∀ r : Request, r.method ≠ .str "GET" → r.payload.getD (.obj []) = v →
      ∃ text, r.body = .ok (some text) ∧ decode repairing (.text text) = .ok v := by
  have htold (numbers : NumberLayout) : v.Throughout (Told .strict numbers .num) :=
    hv.mono fun _ => told_of_carried
  have hsame : v.mapDoubles .num = v := mapDoubles_of_carried hv
  have hwrite (numbers : NumberLayout) :
      decode repairing (.text (String.ofList (write numbers v []))) = .ok v := by
    have hread := (writes_write (htold numbers)).read
    rw [hsame] at hread
    exact decode_of_read hread repairing
  have hindented (width : ℕ) : decode repairing (.text (indented width v)) = .ok v := by
    have hread : read .strict (Utf8.encode (indented width v)) = .ok (v.mapDoubles .num) :=
      (writes_writeIndented (htold .pretty)).read
    rw [hsame] at hread
    exact decode_of_read hread repairing
  have hcompact : compact? v = .ok (compact v) := by
    refine compact?_eq_ok (hv.mono fun part hpart n hn => ?_)
    rw [hn] at hpart
    exact (Numeral.admits_strict_iff.mpr hpart).natAbs_lt
  refine ⟨⟨_, hcompact, hwrite _⟩, hwrite, hindented, ?_⟩
  intro r hmethod hpayload
  exact ⟨compact v, body_eq_ok hmethod hpayload hcompact, hwrite _⟩

end

/-- An object with characters to be escaped, integers beyond 64 bits, and containers that hold
nothing. -/
def escapesAndWideIntegers : Value :=
  .obj [("say \"\\\"", .str "line\n\x01\x7fé😀"), ("ends", .arr [.int (2 ^ 64), .int (-2 ^ 63 - 1)]),
    ("none", .arr [.arr [], .obj [], .null, .bool true])]

theorem decode_written_escapesAndWideIntegers :
    (∃ text, compact? escapesAndWideIntegers = .ok text ∧
      decode false (.text text) = .ok escapesAndWideIntegers) ∧
    (∀ numbers, decode false
      (.text (String.ofList (write numbers escapesAndWideIntegers []))) =
        .ok escapesAndWideIntegers) ∧
    (∀ width, decode false (.text (indented width escapesAndWideIntegers)) =
      .ok escapesAndWideIntegers) ∧
    ∀ r : Request, r.method ≠ .str "GET" → r.payload.getD (.obj []) = escapesAndWideIntegers →
      ∃ text, r.body = .ok (some text) ∧
        decode false (.text text) = .ok escapesAndWideIntegers := by
  refine decode_written ?_ false
  have hwide : Carried (.int (2 ^ 64)) := show (toString (2 ^ 64 : ℤ)).length ≤ maxDigits by decide
  have hlow : Carried (.int (-2 ^ 63 - 1)) :=
    show (toString (-2 ^ 63 - 1 : ℤ)).length ≤ maxDigits by decide
  simp only [escapesAndWideIntegers, throughout_obj_iff, throughout_arr_iff, List.forall_mem_cons,
    throughout_plain_iff, ne_eq, reduceCtorEq, not_false_eq_true,
    implies_true, hwide, hlow]
  simp [Carried, Members.keys]

/-- An integer that is too long with its sign is written, and refused when it is read strictly. -/
lemma decode_of_long {n : ℤ} (hn : maxDigits < (toString n).length) (layout : NumberLayout) :
    ∃ digits, decode false (.text (String.ofList (write layout (.int n) []))) =
      .error (.invalid (.integerOutOfRange digits [])) := by
  obtain ⟨digits, hvalue⟩ := (Numeral.value_ofInt .strict n).2
    (Numeral.admits_strict_iff.not.mpr (not_le.mpr hn))
  refine ⟨digits, ?_⟩
  have hchars : write layout (.int n) [] = (Numeral.ofInt n).chars := by
    rw [Numeral.chars_ofInt]
    exact List.append_nil _
  rw [hchars, Writing.decode_ofString, encode_ofList, decodeBytes, read_numeral_eq_error hvalue]
  rfl

/-- The integer of `maxDigits` digits behind a minus sign that is nearest to zero. It can be
written, and what is written is not read back. -/
theorem refused_of_longestNegative :
    (-10 ^ (maxDigits - 1) : ℤ).natAbs < 10 ^ maxDigits ∧
    compact? (.int (-10 ^ (maxDigits - 1))) = .ok (compact (.int (-10 ^ (maxDigits - 1)))) ∧
    ∃ digits, decode false (.text (compact (.int (-10 ^ (maxDigits - 1))))) =
      .error (.invalid (.integerOutOfRange digits [])) := by
  have habs : (-10 ^ (maxDigits - 1) : ℤ).natAbs = 10 ^ (maxDigits - 1) := by
    have hten : (10 : ℤ).natAbs = 10 := rfl
    rw [Int.natAbs_neg, Int.natAbs_pow, hten]
  have hneg : (-10 ^ (maxDigits - 1) : ℤ) < 0 := neg_lt_zero.mpr (pow_pos (by decide) _)
  have hlt : (-10 ^ (maxDigits - 1) : ℤ).natAbs < 10 ^ maxDigits := by
    rw [habs]
    exact Nat.pow_lt_pow_right (by decide) (by decide)
  have hlimit : Dialect.strict.digitLimit true = maxDigits - 1 := rfl
  have hlong : ¬Dialect.strict.Admits (-10 ^ (maxDigits - 1)) := by
    intro hadmits
    rw [Dialect.Admits, decide_eq_true hneg, habs, hlimit] at hadmits
    exact lt_irrefl _ hadmits
  generalize (-10 ^ (maxDigits - 1) : ℤ) = n at *
  have hwritten : (Value.int n : Value).Throughout fun part => ∀ n, part = .int n →
      n.natAbs < 10 ^ maxDigits := by
    refine (throughout_plain_iff (.int n) (by simp) (by simp)).mpr ?_
    rintro _ ⟨⟩
    exact hlt
  exact ⟨hlt, compact?_eq_ok hwritten,
    decode_of_long (not_le.mp (Numeral.admits_strict_iff.not.mp hlong)) _⟩

end Json

end LivePage
