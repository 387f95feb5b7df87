/-
Compact text, with doubles of any kind. A double without digits is null in the
layout of compact text, and a word of the wide dialect in the layout of
indented text, in which a value stands as a whole once some integer of it is
too wide or some part of it lies too deep.

* `Value.nullified`: a value in which the doubles without digits are null;
* `Value.named`: a value in which no double carries a payload;
* `Json.read_wide_write`: every text in the layout of indented text, in the
  wide dialect;
* `Json.read_compact_of_read`: what is read strictly, from its compact text;
* `Json.decode_compact`: which compact texts are JSON, and what they spell;
* `Json.compact_nan_beside_wideInteger`: an integer that makes another text of a
  double.
-/
import LivePage.Proofs.Dialects
import LivePage.Proofs.JsonWriting
import LivePage.Proofs.Legibility
import LivePage.Proofs.Responses
import LivePage.Proofs.ShortestDigits

namespace LivePage

/-! ### Doubles without digits -/

namespace Double

/-- A finite double, or null. -/
def orNull (x : Double) : Value := if x.isFinite then .num x else .null

/-- The double that is told from the word or the digits of a double. No payload is. -/
def named : Double → Value
  | .nan _ => .num (.nan 0)
  | x => .num x

variable {x : Double}

lemma orNull_of_isFinite (hx : x.isFinite) : x.orNull = .num x := if_pos hx

lemma named_of_isFinite (hx : x.isFinite) : x.named = .num x := by
  cases x with
  | nan payload => exact nomatch hx
  | signed negative size => rfl

/-- A double without digits is no number or an infinity. -/
lemma eq_of_not_isFinite (hx : ¬x.isFinite) :
    (∃ payload, x = .nan payload) ∨ ∃ negative, x = .infinity negative := by
  rcases x with payload | ⟨negative, size⟩
  · exact .inl ⟨payload, rfl⟩
  · have hsize : size.rank = Magnitude.top := by
      simpa [isFinite, Magnitude.isInfinite] using hx
    refine .inr ⟨negative, ?_⟩
    rw [infinity, Magnitude.infinity, ← hsize, Magnitude.ofRank_rank]

end Double

namespace Value

/-- A value in which null stands for each double without digits. -/
def nullified (v : Value) : Value := v.mapDoubles Double.orNull

/-- A value in which no double carries a payload. -/
def named (v : Value) : Value := v.mapDoubles Double.named

lemma nullified_eq_self {v : Value} (h : v.Throughout Json.IsStandard) : v.nullified = v :=
  mapDoubles_eq_self <| h.mono fun part hpart x hx => by
    rw [hx] at hpart
    exact Double.orNull_of_isFinite hpart

/-- Without a payload, a double has as many digits as with it. -/
lemma isStandard_of_named {v : Value} (h : v.named.Throughout Json.IsStandard) :
    v.Throughout Json.IsStandard := by
  induction v using ind with
  | num x =>
      refine (throughout_plain_iff (.num x) nofun nofun).mpr ?_
      cases x with
      | nan payload => exact nomatch show (Double.nan 0).isFinite from h.self
      | signed negative size => exact h.self
  | arr items ih =>
      rw [named, mapDoubles_arr] at h
      exact throughout_arr_iff.mpr
        ⟨trivial, fun v hv => ih v hv (h.item (List.mem_map_of_mem hv))⟩
  | obj members ih =>
      rw [named, mapDoubles_obj] at h
      exact throughout_obj_iff.mpr
        ⟨trivial, fun m hm => ih m hm (h.member (List.mem_map_of_mem hm))⟩
  | _ => exact h

end Value

namespace Json

open Value

/-! ### What is read of doubles -/

section

variable {dialect : Dialect} {numbers : NumberLayout} {x : Double} {v : Value}

/-- The digits of a double are read back in every dialect. -/
lemma rereads_write_of_isFinite (hx : x.isFinite) :
    Rereads dialect (.num x) (x.write numbers).toList := by
  obtain ⟨m, hchars, hvalue⟩ := Numeral.exists_write numbers hx
  exact hchars ▸ rereads_numeral (hvalue dialect)

/-- The layout of compact text has only one word. -/
lemma rereads_write_compact (x : Double) :
    Rereads dialect x.orNull (x.write .compact).toList := by
  by_cases hx : x.isFinite
  · rw [Double.orNull_of_isFinite hx]
    exact rereads_write_of_isFinite hx
  · rw [Double.orNull, if_neg hx]
    rcases Double.eq_of_not_isFinite hx with ⟨_, rfl⟩ | ⟨_ | _, rfl⟩ <;>
      exact show Rereads dialect .null "null".toList from rereads_null

/-- The words of the layout of indented text are those of the wide dialect. -/
lemma rereads_write_pretty (x : Double) : Rereads .wide x.named (x.write .pretty).toList := by
  by_cases hx : x.isFinite
  · rw [Double.named_of_isFinite hx]
    exact rereads_write_of_isFinite hx
  · rcases Double.eq_of_not_isFinite hx with ⟨_, rfl⟩ | ⟨_ | _, rfl⟩
    · exact show Rereads .wide (.num (.nan 0)) "NaN".toList from rereads_nan
    · exact rereads_infinity
    · exact rereads_negativeInfinity

/-! ### Compact text -/

/-- A part is told from its text if each number of it is. -/
lemma told_of_writable {f : Double → Value} (hv : Writable v)
    (hintegers : ∀ n, v = .int n → dialect.Admits n)
    (hdoubles : ∀ x, v = .num x → Rereads dialect (f x) (x.write numbers).toList) :
    Told dialect numbers f v := by
  cases v with
  | int n => exact hintegers n rfl
  | num x => exact hdoubles x rfl
  | _ => exact hv

/-- **The layout of compact text is JSON**, in which the doubles without digits are null, if no
integer is too long. -/
theorem read_write_compact (hv : v.Throughout Writable)
    (hintegers : v.Throughout fun part => ∀ n, part = .int n → dialect.Admits n) :
    read dialect (Utf8.encode (String.ofList (write .compact v []))) = .ok v.nullified :=
  (writes_write fun depth part hpart => told_of_writable (hv depth part hpart)
    (hintegers depth part hpart) fun x _ => rereads_write_compact x).read

/-- **The layout of indented text is wide JSON**, of the same doubles. -/
theorem read_wide_write (hv : v.Throughout Writable) :
    read .wide (Utf8.encode (String.ofList (write .pretty v []))) = .ok v.named :=
  (writes_write (hv.mono fun part hpart =>
    told_of_writable hpart
      (fun n hn => by
        rw [hn] at hpart
        exact hpart)
      fun x _ => rereads_write_pretty x)).read

/-- A part that is read strictly is told from its text in every dialect and layout. -/
lemma told_of_isStrict (hv : IsStrict v) : Told dialect numbers .num v := by
  obtain ⟨hwritable, hstandard⟩ := hv
  refine told_of_writable hwritable (fun n hn => ?_) fun x hx => ?_
  · rw [hn] at hstandard
    exact Dialect.admits_of_strict (Numeral.admits_strict_iff.mpr hstandard)
  · rw [hx] at hstandard
    exact rereads_write_of_isFinite hstandard

/-- Where all parts are standard, every layout is JSON of the same value. -/
theorem read_write_of_isStrict (hv : v.Throughout IsStrict) :
    read dialect (Utf8.encode (String.ofList (write numbers v []))) = .ok v := by
  have htold : v.Throughout (Told dialect numbers .num) := hv.mono fun _ => told_of_isStrict
  have hsame : v.mapDoubles .num = v := mapDoubles_eq_self fun _ _ _ _ _ => rfl
  have hread := (writes_write htold).read
  rwa [hsame] at hread

/-- The layout of indented text is JSON only where all parts are standard. What is read strictly is
read alike in the wide dialect, which has words and room for the others. -/
theorem isStandard_of_read_write (hv : v.Throughout Writable) {w : Value}
    (hread : read .strict (Utf8.encode (String.ofList (write .pretty v []))) = .ok w) :
    v.Throughout IsStandard := by
  obtain ⟨hwide, hstrict⟩ := read_agrees hread .wide
  obtain rfl : v.named = w := Except.ok.inj ((read_wide_write hv).symm.trans hwide)
  exact isStandard_of_named (hstrict.mono fun _ hpart => hpart.2)

/-- A text that is no JSON is refused without a repair. -/
lemma exists_decode_eq_invalid {text : String}
    (h : ∀ w, read .strict (Utf8.encode text) ≠ .ok w) :
    ∃ cause, decode false (.text text) = .error (.invalid cause) := by
  rcases hread : read .strict (Utf8.encode text) with cause | w
  · have hpart (part : Utf8.Malformed) : cause ≠ .illFormed part := by
      rintro rfl
      exact read_ne_illFormed (Utf8.isText_encode text) .strict part hread
    refine ⟨cause, ?_⟩
    rw [Writing.decode_ofString, decodeBytes, hread]
    cases cause with
    | illFormed part => exact absurd rfl (hpart part)
    | _ => rfl
  · exact absurd hread (h w)

/-- No integer of a value is wider than 64 bits, and no part lies too deep, for the layout of
compact text. -/
def FitsCompact (v : Value) : Prop := fitsWords v ∧ v.nesting ≤ compactNesting

/-- An integer of a writable value is not too long. -/
lemma compact?_of_writable (hv : v.Throughout Writable) : compact? v = .ok (compact v) := by
  refine compact?_eq_ok (hv.mono fun part hpart n hn => ?_)
  rw [hn] at hpart
  exact hpart

lemma fitsWords_arr_iff {items : List Value} :
    fitsWords (.arr items) ↔ ∀ v ∈ items, fitsWords v := by
  rw [fitsWords]
  induction items with
  | nil => simp [itemsFitWords]
  | cons v rest ih => rw [itemsFitWords, Bool.and_eq_true, ih, List.forall_mem_cons]

lemma fitsWords_obj_iff {members : Members Value} :
    fitsWords (.obj members) ↔ ∀ m ∈ members, fitsWords m.2 := by
  rw [fitsWords]
  induction members with
  | nil => simp [membersFitWords]
  | cons m rest ih => rw [membersFitWords, Bool.and_eq_true, ih, List.forall_mem_cons]

/-- An integer of 64 bits is not too long for any dialect. -/
lemma admits_of_fitsWords (hv : fitsWords v) :
    v.Throughout fun part => ∀ n, part = .int n → dialect.Admits n := by
  induction v using Value.ind with
  | int n =>
      refine (throughout_plain_iff (.int n) nofun nofun).mpr ?_
      rintro _ ⟨⟩
      simp only [fitsWords, Bool.and_eq_true, decide_eq_true_eq] at hv
      have hbound : 10 ^ 20 ≤ 10 ^ dialect.digitLimit (decide (n < 0)) := by
        refine Nat.pow_le_pow_right (by decide) ?_
        cases dialect <;> cases decide (n < 0) <;> decide
      exact lt_of_lt_of_le (by omega) hbound
  | arr items ih =>
      rw [fitsWords_arr_iff] at hv
      exact throughout_arr_iff.mpr ⟨nofun, fun v hitem => ih v hitem (hv v hitem)⟩
  | obj members ih =>
      rw [fitsWords_obj_iff] at hv
      exact throughout_obj_iff.mpr ⟨nofun, fun m hm => ih m hm (hv m hm)⟩
  | _ =>
      refine (throughout_plain_iff _ ?_ ?_).mpr ?_ <;> exact nofun

lemma compactLayout_of_fitsCompact (h : FitsCompact v) : compactLayout v = .compact := by
  rw [compactLayout, h.1, Bool.true_and, if_pos (decide_eq_true h.2)]

lemma compactLayout_of_not_fitsCompact (h : ¬FitsCompact v) : compactLayout v = .pretty := by
  refine if_neg fun hfits => h ?_
  rw [Bool.and_eq_true, decide_eq_true_eq] at hfits
  exact hfits

/-- What is read strictly is read again from its compact text. -/
theorem read_compact_of_read {input : List UInt8} (hread : read .strict input = .ok v) :
    read dialect (Utf8.encode (compact v)) = .ok v := by
  obtain ⟨-, hstrict⟩ := read_agrees hread .strict
  exact read_write_of_isStrict hstrict

/-! ### Requests and refusals -/

lemma refusalMessage_eq_compact (hv : ∀ s, v ≠ .str s) (status : ℕ) :
    refusalMessage status v = compact v := by
  have hmessage := refusal_message status v
  generalize refusalMessage status v = message at hmessage
  cases hmessage with
  | value _ => rfl
  | text _ => exact absurd rfl (hv _)
  | empty => exact absurd rfl (hv _)

/-- A refusal that is no text carries what strict reading gives. -/
lemma read_of_refused {r : Response} {status : ℕ} (hv : ∀ s, v ≠ .str s)
    (hrefused : outcomeOf (.response r) = .error (.refused status v)) :
    read .strict r.body = .ok v := by
  rcases hdecode : r.decode with cause | w <;> simp only [outcomeOf, hdecode] at hrefused
  · cases hrefused
  · split at hrefused <;> cases hrefused
    cases Response.decode_eq_ok_iff.mp hdecode with
    | json _ hbody => exact hbody
    | text _ _ => exact absurd rfl (hv _)

/-- What the compact text of a value is, where it goes, and what is read of it. -/
structure CompactText (v : Value) (text : String) : Prop where
  written : compact? v = .ok text
  body : ∀ r : Request, r.method ≠ .str "GET" → r.payload.getD (.obj []) = v →
    r.body = .ok (some text)
  message : ∀ status, (∀ s, v ≠ .str s) → refusalMessage status v = text
  json : FitsCompact v ∨ v.Throughout IsStandard →
    ∀ repairing, decode repairing (.text text) = .ok v.nullified
  other : ¬FitsCompact v → ¬v.Throughout IsStandard →
    ∃ cause, decode false (.text text) = .error (.invalid cause)

/-- The compact text of a value with doubles of any kind. -/
lemma compactText_of_writable (hv : v.Throughout Writable) : CompactText v (compact v) where
  written := compact?_of_writable hv
  body r hmethod hpayload := body_eq_ok hmethod hpayload (compact?_of_writable hv)
  message status hother := refusalMessage_eq_compact hother status
  json hcase repairing := by
    refine decode_of_read ?_ repairing
    rw [compact]
    by_cases hfits : FitsCompact v
    · rw [compactLayout_of_fitsCompact hfits]
      exact read_write_compact hv (admits_of_fitsWords hfits.1)
    · have hstandard : v.Throughout IsStandard := hcase.resolve_left hfits
      rw [nullified_eq_self hstandard]
      exact read_write_of_isStrict fun depth part hpart =>
        ⟨hv depth part hpart, hstandard depth part hpart⟩
  other hfits hstandard := by
    refine exists_decode_eq_invalid fun w hread => hstandard ?_
    rw [compact, compactLayout_of_not_fitsCompact hfits] at hread
    exact isStandard_of_read_write hv hread

end

/-- **Which compact texts are JSON.** The compact text of a value, which is the body of each request
that carries it, is JSON with null for each double without digits, if the value fits into the layout
of compact text or all its doubles are finite and no integer is too long with its sign. It is no
JSON otherwise. The message of a refusal is JSON in any case, unless what was refused is a text. -/
theorem decode_compact (v : Value) :
    (v.Throughout Writable → CompactText v (compact v)) ∧
    ∀ (r : Response) (status : ℕ), outcomeOf (.response r) = .error (.refused status v) →
      (∀ s, v ≠ .str s) →
        ∀ repairing, decode repairing (.text (refusalMessage status v)) = .ok v := by
  refine ⟨compactText_of_writable, fun r status hrefused hv repairing => ?_⟩
  rw [refusalMessage_eq_compact hv]
  exact decode_of_read (read_compact_of_read (read_of_refused hv hrefused)) repairing

/-- An element without digits beside an integer that is wider than 64 bits. -/
def nanBesideWideInteger : Value := .arr [.num (.nan 0), .int (2 ^ 64)]

lemma writable_nanBesideWideInteger : nanBesideWideInteger.Throughout Writable := by
  have hbound : 10 ^ 20 ≤ 10 ^ maxDigits := Nat.pow_le_pow_right (by decide) (by decide)
  have hwide : Writable (.int (2 ^ 64)) := lt_of_lt_of_le (by decide) hbound
  simp only [nanBesideWideInteger, throughout_arr_iff, List.forall_mem_cons, throughout_plain_iff,
    ne_eq, reduceCtorEq, not_false_eq_true, implies_true, hwide]
  simp [Writable]

/-- A refusal that carries an array. -/
def refusedArray : Response :=
  ⟨404, [("Content-Type", "application/json")], Utf8.encode "[1.5, 18446744073709551616]"⟩

lemma outcomeOf_refusedArray : outcomeOf (.response refusedArray) =
    .error (.refused 404 (.arr [.num (.ofDecimal false 15 (-1)), .int (2 ^ 64)])) := by
  have htype : refusedArray.isJson := by decide +kernel
  have hbody : read .strict refusedArray.body =
      .ok (.arr [.num (.ofDecimal false 15 (-1)), .int (2 ^ 64)]) := by decide +kernel
  rw [outcomeOf, Response.decode_eq_ok_iff.mpr (.json (Response.isJson_iff.mp htype) hbody)]
  rfl

theorem decode_compact_nanBesideWideInteger :
    CompactText nanBesideWideInteger (compact nanBesideWideInteger) ∧
    (∃ cause, decode false (.text (compact nanBesideWideInteger)) =
      .error (.invalid cause)) ∧
    ∃ v, outcomeOf (.response refusedArray) = .error (.refused 404 v) ∧
      decode false (.text (refusalMessage 404 v)) = .ok v := by
  have htext := (decode_compact nanBesideWideInteger).1 writable_nanBesideWideInteger
  refine ⟨htext, htext.other ?_ ?_, _, outcomeOf_refusedArray,
    (decode_compact _).2 _ _ outcomeOf_refusedArray (by simp) false⟩
  · rintro ⟨hfits, -⟩
    exact absurd hfits (by decide)
  · intro hfinite
    exact nomatch show (Double.nan 0).isFinite from (hfinite.item List.mem_cons_self).self

/-- A double without digits is null in one compact text, and a word that is no JSON in another one,
beside an integer that is wider than 64 bits. -/
theorem compact_nan_beside_wideInteger :
    nanBesideWideInteger.Throughout Writable ∧ compact? (.arr [.num (.nan 0)]) = .ok "[null]" ∧
    compact? nanBesideWideInteger = .ok "[NaN,18446744073709551616]" ∧
    ∀ w, decode false (.text "[NaN,18446744073709551616]") ≠ .ok w := by
  have hrefused : decode false (.text "[NaN,18446744073709551616]") =
      .error (.invalid (.malformed .invalidCharacter 1)) := by decide +kernel
  refine ⟨writable_nanBesideWideInteger, by decide +kernel, by decide +kernel, fun w => ?_⟩
  rw [hrefused]
  exact nofun

end Json

end LivePage
