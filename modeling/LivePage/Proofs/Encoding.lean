/-
Texts and their bytes. Bytes are read one at a time; they are the bytes of a text if
no character is in progress behind the last one.

* `Utf8.Scans`: what bytes make of the character in progress;
* `Utf8.decode_eq_ok_iff`, `Utf8.decode_encode`: bytes that are decoded, and the text
  that they come from;
* `Utf8.IsText`: bytes of a text, and what is left of them behind bytes of ASCII.
-/
import LivePage.Text.Utf8
import Mathlib.Tactic

namespace LivePage.Utf8

/-! ### One byte at a time -/

/-- What a byte makes of the character in progress, if there is one. -/
def step : Option Pending → UInt8 → Advance
  | none, b => start b
  | some p, b => p.advance b

/-- Bytes complete some characters, and leave one in progress or none. -/
inductive Scans : Option Pending → List UInt8 → List Char → Option Pending → Prop
  | nil (st : Option Pending) : Scans st [] [] st
  | complete {st last : Option Pending} {b : UInt8} {rest : List UInt8} {c : Char} {cs : List Char}
      (hstep : step st b = .complete c) (hrest : Scans none rest cs last) :
      Scans st (b :: rest) (c :: cs) last
  | incomplete {st last : Option Pending} {b : UInt8} {rest : List UInt8} {next : Pending}
      {cs : List Char} (hstep : step st b = .incomplete next)
      (hrest : Scans (some next) rest cs last) : Scans st (b :: rest) cs last

variable {st mid last : Option Pending} {b : UInt8} {bytes more rest : List UInt8}
  {cs ds : List Char}

lemma Scans.append (hfirst : Scans st bytes cs mid) (hsecond : Scans mid more ds last) :
    Scans st (bytes ++ more) (cs ++ ds) last := by
  induction hfirst with
  | nil => exact hsecond
  | complete hstep _ ih => exact .complete hstep (ih hsecond)
  | incomplete hstep _ ih => exact .incomplete hstep (ih hsecond)

/-- A byte completes a character or leaves one in progress. -/
lemma scans_cons_iff : Scans st (b :: rest) cs last ↔
    (∃ c ds, cs = c :: ds ∧ step st b = .complete c ∧ Scans none rest ds last) ∨
      ∃ next, step st b = .incomplete next ∧ Scans (some next) rest cs last := by
  constructor
  · intro hscans
    cases hscans with
    | complete hstep hrest => exact .inl ⟨_, _, rfl, hstep, hrest⟩
    | incomplete hstep hrest => exact .inr ⟨_, hstep, hrest⟩
  · rintro (⟨c, ds, rfl, hstep, hrest⟩ | ⟨next, hstep, hrest⟩)
    · exact .complete hstep hrest
    · exact .incomplete hstep hrest

lemma scans_nil_iff : Scans st [] cs last ↔ cs = [] ∧ last = st := by
  constructor
  · rintro ⟨⟩
    exact ⟨rfl, rfl⟩
  · rintro ⟨rfl, rfl⟩
    exact .nil last

/-! ### Decoding -/

lemma decodeFrom_eq_ok_iff {position : ℕ} {done : List Char} :
    decodeFrom position done st bytes = .ok cs ↔
      ∃ ds, cs = done.reverse ++ ds ∧ Scans st bytes ds none := by
  induction bytes generalizing st position done with
  | nil => cases st <;> simp [decodeFrom, scans_nil_iff, eq_comm]
  | cons b rest ih =>
      have hdecode : decodeFrom position done st (b :: rest) = .ok cs ↔
          (∃ c, step st b = .complete c ∧
              decodeFrom (position + 1) (c :: done) none rest = .ok cs) ∨
            ∃ next, step st b = .incomplete next ∧
              decodeFrom (position + 1) done (some next) rest = .ok cs := by
        rcases st with _ | p
        · rw [decodeFrom, step]
          cases start b <;> simp
        · rw [decodeFrom, step]
          cases p.advance b <;> simp
      rw [hdecode]
      simp only [ih, scans_cons_iff, List.reverse_cons, List.append_assoc, List.singleton_append]
      constructor
      · rintro (⟨c, hstep, ds, rfl, hrest⟩ | ⟨next, hstep, ds, rfl, hrest⟩)
        · exact ⟨c :: ds, rfl, .inl ⟨c, ds, rfl, hstep, hrest⟩⟩
        · exact ⟨ds, rfl, .inr ⟨next, hstep, hrest⟩⟩
      · rintro ⟨ds, rfl, ⟨c, ds, rfl, hstep, hrest⟩ | ⟨next, hstep, hrest⟩⟩
        · exact .inl ⟨c, hstep, ds, rfl, hrest⟩
        · exact .inr ⟨next, hstep, ds, rfl, hrest⟩

/-- Bytes are decoded if they complete a text and leave nothing in progress. -/
lemma decode_eq_ok_iff {text : String} :
    decode bytes = .ok text ↔ Scans none bytes text.toList none := by
  have hmap : decode bytes = .ok text ↔ decodeFrom 0 [] none bytes = .ok text.toList := by
    rw [decode]
    rcases decodeFrom 0 [] none bytes with e | cs
    · simp [Except.map]
    · simp only [Except.map, Except.ok.injEq]
      constructor
      · rintro rfl
        exact String.toList_ofList.symm
      · rintro rfl
        exact String.ofList_toList
  rw [hmap, decodeFrom_eq_ok_iff]
  simp

/-! ### Encoding -/

section

-- The bits of a byte that are not its mark.
variable {q : ℕ}

lemma start_of_two (hlow : 2 ≤ q) (hhigh : q < 32) :
    start (UInt8.ofNat (q + 192)) = opening (UInt8.ofNat (q + 192)) 0 0x80 0xBF q := by
  interval_cases q <;> rfl

lemma start_of_three (hq : q < 16) :
    start (UInt8.ofNat (q + 224)) = opening (UInt8.ofNat (q + 224)) 1
      (if q = 0 then 0xA0 else 0x80) (if q = 13 then 0x9F else 0xBF) q := by
  interval_cases q <;> rfl

lemma start_of_four (hq : q < 5) :
    start (UInt8.ofNat (q + 240)) = opening (UInt8.ofNat (q + 240)) 2
      (if q = 0 then 0x90 else 0x80) (if q = 4 then 0x8F else 0xBF) q := by
  interval_cases q <;> rfl

lemma advance_eq {p : Pending} (hq : q < 64) (hlow : p.low.toNat ≤ q + 128)
    (hhigh : q + 128 ≤ p.high.toNat) :
    (p.moreAfter = 0 →
      p.advance (UInt8.ofNat (q + 128)) = .complete (Char.ofNat (p.bits * 64 + q))) ∧
    ∀ more, p.moreAfter = more + 1 →
      p.advance (UInt8.ofNat (q + 128)) =
        .incomplete ⟨p.lead, p.taken + 1, more, 0x80, 0xBF, p.bits * 64 + q⟩ := by
  have hbyte : (UInt8.ofNat (q + 128)).toNat = q + 128 :=
    UInt8.toNat_ofNat_of_lt' (by rw [UInt8.size]; omega)
  have hbounds : (p.low ≤ UInt8.ofNat (q + 128) && UInt8.ofNat (q + 128) ≤ p.high) = true := by
    simp only [Bool.and_eq_true, decide_eq_true_eq, UInt8.le_iff_toNat_le, hbyte]
    exact ⟨hlow, hhigh⟩
  have hbits : (UInt8.ofNat (q + 128)).toNat - 0x80 = q := by omega
  rw [Pending.advance, if_pos hbounds, hbits]
  constructor
  · intro hmore
    rw [hmore]
  · intro more hmore
    rw [hmore]

lemma scans_tail {p : Pending} {more : ℕ} (hmore : p.moreAfter = more + 1) (hq : q < 64)
    (hlow : p.low.toNat ≤ q + 128) (hhigh : q + 128 ≤ p.high.toNat)
    (hrest : Scans (some ⟨p.lead, p.taken + 1, more, 0x80, 0xBF, p.bits * 64 + q⟩) rest cs last) :
    Scans (some p) (UInt8.ofNat (q + 128) :: rest) cs last :=
  .incomplete ((advance_eq hq hlow hhigh).2 more hmore) hrest

lemma tail_bounds (hq : q < 64) :
    (0x80 : UInt8).toNat ≤ q + 128 ∧ q + 128 ≤ (0xBF : UInt8).toNat := by
  have hmin : (0x80 : UInt8).toNat = 128 := rfl
  have hmax : (0xBF : UInt8).toNat = 191 := rfl
  omega

/-- The lower bound of a second byte may be raised. -/
lemma low_bound {raised : UInt8} {P : Prop} [Decidable P] (hq : q < 64)
    (hraised : P → raised.toNat ≤ q + 128) : (if P then raised else 0x80).toNat ≤ q + 128 := by
  split
  case isTrue h => exact hraised h
  case isFalse => exact (tail_bounds hq).1

/-- The upper bound of a second byte may be lowered. -/
lemma high_bound {lowered : UInt8} {P : Prop} [Decidable P] (hq : q < 64)
    (hlowered : P → q + 128 ≤ lowered.toNat) : q + 128 ≤ (if P then lowered else 0xBF).toNat := by
  split
  case isTrue h => exact hlowered h
  case isFalse => exact (tail_bounds hq).2

variable {lead : UInt8} {taken bits : ℕ}

/-- The last byte of a character completes it. -/
lemma scans_last {c : Char} (hq : q < 64) (hc : Char.ofNat (bits * 64 + q) = c) :
    Scans (some ⟨lead, taken, 0, 0x80, 0xBF, bits⟩) [UInt8.ofNat (q + 128)] [c] none := by
  obtain ⟨hlow, hhigh⟩ := tail_bounds hq
  exact .complete (hc ▸ (advance_eq hq hlow hhigh).1 rfl) (.nil none)

lemma scans_last_two {q₁ q₂ : ℕ} {c : Char} (h₁ : q₁ < 64) (h₂ : q₂ < 64)
    (hc : Char.ofNat ((bits * 64 + q₁) * 64 + q₂) = c) :
    Scans (some ⟨lead, taken, 1, 0x80, 0xBF, bits⟩)
      [UInt8.ofNat (q₁ + 128), UInt8.ofNat (q₂ + 128)] [c] none := by
  obtain ⟨hlow, hhigh⟩ := tail_bounds h₁
  exact scans_tail rfl h₁ hlow hhigh (scans_last h₂ hc)

end

/-- **The bytes of a character complete it.** The bounds of the second byte leave out the longer
forms of a character, the surrogates, and what lies beyond the last character. -/
lemma scans_encodeChar (c : Char) : Scans none (String.utf8EncodeChar c) [c] none := by
  have hvalid : c.val.toNat < 0xD800 ∨ 0xDFFF < c.val.toNat ∧ c.val.toNat < 0x110000 := c.valid
  have hc : Char.ofNat c.val.toNat = c := Char.ofNat_toNat c
  rw [String.utf8EncodeChar]
  generalize c.val.toNat = v at *
  by_cases hone : v ≤ 127
  · have hbyte : (UInt8.ofNat v).toNat = v := UInt8.toNat_ofNat_of_lt' (by rw [UInt8.size]; omega)
    have hascii : UInt8.ofNat v < 0x80 := by
      rw [UInt8.lt_iff_toNat_lt, hbyte]
      exact Nat.lt_succ_of_le hone
    rw [if_pos hone]
    refine .complete ?_ (.nil none)
    rw [step, start, if_pos hascii, hbyte, hc]
  by_cases htwo : v ≤ 2047
  · have hvalue : v / 64 % 32 * 64 + v % 64 = v := by omega
    rw [if_neg hone, if_pos htwo]
    exact .incomplete (start_of_two (by omega) (by omega))
      (scans_last (by omega) (by rw [hvalue, hc]))
  by_cases hthree : v ≤ 65535
  · have hvalue : (v / 4096 % 16 * 64 + v / 64 % 64) * 64 + v % 64 = v := by omega
    have hraised : (0xA0 : UInt8).toNat = 160 := rfl
    have hlowered : (0x9F : UInt8).toNat = 159 := rfl
    have hlow : (if v / 4096 % 16 = 0 then 0xA0 else 0x80 : UInt8).toNat ≤ v / 64 % 64 + 128 :=
      low_bound (by omega) (by omega)
    have hhigh : v / 64 % 64 + 128 ≤ (if v / 4096 % 16 = 13 then 0x9F else 0xBF : UInt8).toNat :=
      high_bound (by omega) (by omega)
    rw [if_neg hone, if_neg htwo, if_pos hthree]
    exact .incomplete (start_of_three (by omega)) (scans_tail rfl (by omega) hlow hhigh
      (scans_last (by omega) (by rw [hvalue, hc])))
  · have hvalue :
        ((v / 262144 % 8 * 64 + v / 4096 % 64) * 64 + v / 64 % 64) * 64 + v % 64 = v := by omega
    have hraised : (0x90 : UInt8).toNat = 144 := rfl
    have hlowered : (0x8F : UInt8).toNat = 143 := rfl
    have hlow : (if v / 262144 % 8 = 0 then 0x90 else 0x80 : UInt8).toNat ≤
        v / 4096 % 64 + 128 := low_bound (by omega) (by omega)
    have hhigh : v / 4096 % 64 + 128 ≤
        (if v / 262144 % 8 = 4 then 0x8F else 0xBF : UInt8).toNat :=
      high_bound (by omega) (by omega)
    rw [if_neg hone, if_neg htwo, if_neg hthree]
    exact .incomplete (start_of_four (by omega)) (scans_tail rfl (by omega) hlow hhigh
      (scans_last_two (by omega) (by omega) (by rw [hvalue, hc])))

lemma scans_encode (text : String) : Scans none (encode text) text.toList none := by
  rw [encode]
  induction text.toList with
  | nil => exact .nil none
  | cons c cs ih =>
      rw [List.flatMap_cons]
      exact (scans_encodeChar c).append ih

/-- **The bytes of a text are decoded as that text.** -/
theorem decode_encode (text : String) : decode (encode text) = .ok text :=
  decode_eq_ok_iff.mpr (scans_encode text)

/-! ### Bytes of a text -/

/-- Bytes that leave no character in progress. -/
def Completes (st : Option Pending) (bytes : List UInt8) : Prop := ∃ cs, Scans st bytes cs none

/-- Bytes that are those of a text. -/
abbrev IsText (bytes : List UInt8) : Prop := Completes none bytes

lemma isText_iff : IsText bytes ↔ ∃ text, decode bytes = .ok text := by
  simp only [decode_eq_ok_iff]
  constructor
  · rintro ⟨cs, hscans⟩
    exact ⟨String.ofList cs, by rwa [String.toList_ofList]⟩
  · rintro ⟨text, hscans⟩
    exact ⟨text.toList, hscans⟩

lemma isText_encode (text : String) : IsText (encode text) := ⟨text.toList, scans_encode text⟩

lemma completes_nil_iff : Completes st [] ↔ st = none := by
  simp [Completes, scans_nil_iff, eq_comm]

lemma completes_cons_iff : Completes st (b :: rest) ↔
    (∃ c, step st b = .complete c) ∧ IsText rest ∨
      ∃ next, step st b = .incomplete next ∧ Completes (some next) rest := by
  simp only [Completes, scans_cons_iff]
  constructor
  · rintro ⟨cs, ⟨c, ds, rfl, hstep, hrest⟩ | ⟨next, hstep, hrest⟩⟩
    · exact .inl ⟨⟨c, hstep⟩, ds, hrest⟩
    · exact .inr ⟨next, hstep, cs, hrest⟩
  · rintro (⟨⟨c, hstep⟩, ds, hrest⟩ | ⟨next, hstep, cs, hrest⟩)
    · exact ⟨c :: ds, .inl ⟨c, ds, rfl, hstep, hrest⟩⟩
    · exact ⟨cs, .inr ⟨next, hstep, hrest⟩⟩

/-- What bytes leave in progress is all that counts behind them. -/
lemma Scans.completes_append_iff (hscans : Scans st bytes cs mid) :
    Completes st (bytes ++ more) ↔ Completes mid more := by
  induction hscans with
  | nil => rfl
  | complete hstep _ ih => simp [completes_cons_iff, hstep, ih]
  | incomplete hstep _ ih => simp [completes_cons_iff, hstep, ih]

/-- A character in progress goes on with bytes that begin none. -/
def Inner (st : Option Pending) : Prop := ∀ p, st = some p → 0x80 ≤ p.low ∧ p.high < 0xC2

lemma inner_none : Inner none := fun _ h => nomatch h

lemma inner_of_step {next : Pending} (hstep : step st b = .incomplete next) :
    Inner (some next) := by
  rintro _ ⟨⟩
  rcases st with _ | p
  · rw [step, start] at hstep
    simp only [opening] at hstep
    split_ifs at hstep <;> cases hstep <;> simp
  · rw [step, Pending.advance] at hstep
    split at hstep
    · split at hstep <;> cases hstep
      simp
    · cases hstep

/-- A byte that begins a character stands between two. -/
lemma eq_none_of_start (hinner : Inner st) (hcompletes : Completes st (b :: rest))
    (hstart : start b ≠ .refused) : st = none := by
  rcases st with _ | p
  · rfl
  obtain ⟨hlow, hhigh⟩ := hinner p rfl
  have hb : b < 0x80 ∨ ¬b < 0xC2 := by
    by_contra hinside
    rw [not_or, not_not] at hinside
    exact hstart (by rw [start, if_neg hinside.1, if_pos hinside.2])
  have hrefused : p.advance b = .refused := by
    rw [Pending.advance, if_neg]
    simp only [Bool.and_eq_true, decide_eq_true_eq, not_and]
    intro hle hge
    simp only [UInt8.le_iff_toNat_le, UInt8.lt_iff_toNat_lt] at *
    omega
  rcases completes_cons_iff.mp hcompletes with ⟨⟨c, hstep⟩, -⟩ | ⟨next, hstep, -⟩ <;>
    rw [step, hrefused] at hstep <;> cases hstep

lemma completes_char_iff (hinner : Inner st) (c : Char) :
    Completes st (String.utf8EncodeChar c ++ rest) ↔ st = none ∧ IsText rest := by
  have hchar := scans_encodeChar c
  constructor
  · intro hcompletes
    have hst : st = none := by
      rcases hbytes : String.utf8EncodeChar c with _ | ⟨b, tail⟩
      · exact absurd hbytes String.utf8EncodeChar_ne_nil
      rw [hbytes] at hchar hcompletes
      refine eq_none_of_start hinner hcompletes fun hrefused => ?_
      rcases scans_cons_iff.mp hchar with ⟨d, ds, -, hstep, -⟩ | ⟨next, hstep, -⟩ <;>
        rw [step, hrefused] at hstep <;> cases hstep
    subst hst
    exact ⟨rfl, hchar.completes_append_iff.mp hcompletes⟩
  · rintro ⟨rfl, hrest⟩
    exact hchar.completes_append_iff.mpr hrest

/-! ### Bytes of ASCII -/

lemma start_of_ascii (hb : b < 0x80) : start b = .complete (Char.ofNat b.toNat) := by
  rw [start, if_pos hb]

/-- A byte of ASCII stands between two characters, for one of its own. -/
lemma completes_ascii_iff (hinner : Inner st) (hb : b < 0x80) :
    Completes st (b :: rest) ↔ st = none ∧ IsText rest := by
  have hstart := start_of_ascii hb
  constructor
  · intro hcompletes
    obtain rfl : st = none := eq_none_of_start hinner hcompletes (by rw [hstart]; nofun)
    rcases completes_cons_iff.mp hcompletes with ⟨-, hrest⟩ | ⟨next, hstep, -⟩
    · exact ⟨rfl, hrest⟩
    · rw [step, hstart] at hstep
      cases hstep
  · rintro ⟨rfl, hrest⟩
    exact completes_cons_iff.mpr (.inl ⟨⟨_, hstart⟩, hrest⟩)

lemma isText_cons_iff (hb : b < 0x80) : IsText (b :: rest) ↔ IsText rest := by
  rw [IsText, completes_ascii_iff inner_none hb, and_iff_right rfl]

/-- Behind bytes of ASCII there is a text if there is one in all. -/
lemma isText_append_iff (hascii : ∀ b ∈ bytes, b < 0x80) :
    IsText (bytes ++ rest) ↔ IsText rest := by
  induction bytes with
  | nil => rfl
  | cons b bytes ih =>
      rw [List.forall_mem_cons] at hascii
      rw [List.cons_append, isText_cons_iff hascii.1, ih hascii.2]

lemma isText_dropWhile_iff {p : UInt8 → Bool} (hp : ∀ b, p b → b < 0x80) :
    IsText (bytes.dropWhile p) ↔ IsText bytes := by
  have hascii : ∀ b ∈ bytes.takeWhile p, b < 0x80 := fun b hb =>
    hp b (List.all_eq_true.mp List.all_takeWhile b hb)
  rw [← isText_append_iff hascii, List.takeWhile_append_dropWhile]

end LivePage.Utf8
