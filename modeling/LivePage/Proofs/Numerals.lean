/-
Numerals are read as the numbers that they spell: a sign, digits, perhaps a
fraction, and perhaps an exponent, up to whatever does not go on with them.

* `Digits`, `Numeral`: decimal digits, and a numeral made of them;
* `Json.Ends`: what may stand behind a numeral;
* `Json.readPlain_numeral`: a numeral is read as its value;
* `Numeral.ofInt`, `Numeral.value_ofInt`: the numerals of integers;
* `Numeral.admits_strict_iff`: the integers that strict reading has room for.
-/
import LivePage.Proofs.Quoting

namespace LivePage

open Utf8

/-! ### Digits -/

/-- Decimal digits, at least one. -/
structure Digits where
  chars : List Char
  ne_nil : chars ≠ []
  isDigit : ∀ c ∈ chars, c.isDigit

namespace Digits

/-- The number that digits spell. -/
def value (ds : Digits) : ℕ := Nat.ofDigitChars 10 ds.chars 0

/-- The digits of a number, without zeros in front. -/
def ofNat (n : ℕ) : Digits where
  chars := Nat.toDigits 10 n
  ne_nil := Nat.toDigits_ne_nil
  isDigit _ := Nat.isDigit_of_mem_toDigits (by decide) (by decide)

lemma value_ofNat (n : ℕ) : (ofNat n).value = n :=
  Nat.ofDigitChars_toDigits (by decide) (by decide)

end Digits

/-! ### Numerals -/

/-- A numeral. Its whole part has no zero in front, and its exponent has a sign. -/
structure Numeral where
  negative : Bool
  whole : Digits
  canonical : ∀ rest, whole.chars = '0' :: rest → rest = []
  fraction : Option Digits
  /-- Whether the exponent is below zero, and its digits. -/
  exponent : Option (Bool × Digits)

namespace Numeral

/-- The fraction behind its point. -/
def fractionChars (m : Numeral) : List Char :=
  m.fraction.elim [] fun ds => '.' :: ds.chars

/-- The exponent behind its mark. -/
def exponentChars (m : Numeral) : List Char :=
  m.exponent.elim [] fun e => 'e' :: (if e.1 then '-' else '+') :: e.2.chars

/-- A numeral without its sign. -/
def unsigned (m : Numeral) : List Char := m.whole.chars ++ (m.fractionChars ++ m.exponentChars)

def chars (m : Numeral) : List Char := if m.negative then '-' :: m.unsigned else m.unsigned

/-- The power of ten of an exponent. -/
def power (e : Bool × Digits) : ℤ := if e.1 then -(e.2.value : ℤ) else e.2.value

/-- The number that a numeral spells in a dialect: an integer when it has neither a fraction nor an
exponent. -/
def value (m : Numeral) (dialect : Json.Dialect) : Except Json.Error Value :=
  Json.number dialect m.negative (bytes m.whole.chars) (m.fraction.map fun ds => bytes ds.chars)
    (m.exponent.map power)

end Numeral

namespace Json

/-! ### Digits as bytes -/

lemma ascii_of_isDigitChar {c : Char} (hc : c.isDigit) : c.toNat < 0x80 := by
  have hnine : c.toNat ≤ 57 := (Char.isDigit_iff_toNat.mp hc).2
  omega

lemma bytes_digits {cs : List Char} (hcs : ∀ c ∈ cs, c.isDigit) : bytes cs = cs.map code :=
  bytes_eq_map_code fun c hc => ascii_of_isDigitChar (hcs c hc)

lemma toNat_code {c : Char} (hc : c.toNat < 0x80) : (code c).toNat = c.toNat := by
  rw [code]
  exact UInt8.toNat_ofNat_of_lt' (by rw [UInt8.size]; omega)

lemma isDigit_code {c : Char} (hc : c.isDigit) : isDigit (code c) := by
  have hcode := toNat_code (ascii_of_isDigitChar hc)
  obtain ⟨hzero, hnine⟩ := Char.isDigit_iff_toNat.mp hc
  simp only [isDigit, Bool.and_eq_true, decide_eq_true_eq, UInt8.le_iff_toNat_le, hcode]
  exact ⟨hzero, hnine⟩

lemma isDigit_of_mem_bytes {cs : List Char} (hcs : ∀ c ∈ cs, c.isDigit) :
    ∀ b ∈ bytes cs, isDigit b := by
  rw [bytes_digits hcs]
  exact List.forall_mem_map.mpr fun c hc => isDigit_code (hcs c hc)

/-- Digits spell the same number as bytes. -/
lemma digitsValue_bytes {cs : List Char} (hcs : ∀ c ∈ cs, c.isDigit) :
    digitsValue (bytes cs) = Nat.ofDigitChars 10 cs 0 := by
  rw [bytes_digits hcs, digitsValue, Nat.ofDigitChars]
  generalize 0 = n
  induction cs generalizing n with
  | nil => rfl
  | cons c cs ih =>
      obtain ⟨hc, hcs⟩ := List.forall_mem_cons.mp hcs
      have hzero : '0'.toNat = 0x30 := rfl
      rw [List.map_cons, List.foldl_cons, List.foldl_cons, ih hcs,
        toNat_code (ascii_of_isDigitChar hc), hzero]

/-! ### What ends a numeral -/

section

variable {size : ℕ} {dialect : Dialect} {rest : List UInt8} {b : UInt8}

/-- No digit goes on with what stands before. -/
def EndsDigits (rest : List UInt8) : Prop := ∀ b ∈ rest.head?, isDigit b = false

/-- Nothing goes on with the numeral that stands before: no digit, point or exponent. -/
def Ends (rest : List UInt8) : Prop :=
  ∀ b ∈ rest.head?, isDigit b = false ∧ b ≠ 0x2E ∧ b ≠ 0x65 ∧ b ≠ 0x45

lemma Ends.digits (hrest : Ends rest) : EndsDigits rest := fun b hb => (hrest b hb).1

lemma takeWhile_digits {cs : List Char} (hcs : ∀ c ∈ cs, c.isDigit) (hrest : EndsDigits rest) :
    (bytes cs ++ rest).takeWhile isDigit = bytes cs := by
  rw [List.takeWhile_append_of_pos (isDigit_of_mem_bytes hcs)]
  cases rest with
  | nil => simp
  | cons b rest => simp [hrest b (by simp)]

lemma dropWhile_digits {cs : List Char} (hcs : ∀ c ∈ cs, c.isDigit) (hrest : EndsDigits rest) :
    (bytes cs ++ rest).dropWhile isDigit = rest := by
  rw [List.dropWhile_append_of_pos (isDigit_of_mem_bytes hcs)]
  cases rest with
  | nil => simp
  | cons b rest => simp [hrest b (by simp)]

/-! ### The parts of a numeral -/

lemma bytes_ne_nil {cs : List Char} (hcs : cs ≠ []) : bytes cs ≠ [] := by
  obtain ⟨c, cs, rfl⟩ := List.exists_cons_of_ne_nil hcs
  rw [bytes_cons]
  exact List.append_ne_nil_of_left_ne_nil String.utf8EncodeChar_ne_nil _

lemma readDigits_digits (ds : Digits) (hrest : EndsDigits rest) :
    readDigits size (bytes ds.chars ++ rest) = .ok (bytes ds.chars, rest) := by
  simp only [readDigits, takeWhile_digits ds.isDigit hrest, dropWhile_digits ds.isDigit hrest]
  rw [if_neg (by simpa using bytes_ne_nil ds.ne_nil)]

lemma readWhole_digits (ds : Digits) (canonical : ∀ rest, ds.chars = '0' :: rest → rest = [])
    (hrest : EndsDigits rest) :
    readWhole size (bytes ds.chars ++ rest) = .ok (bytes ds.chars, rest) := by
  obtain ⟨c, cs, hds⟩ := List.exists_cons_of_ne_nil ds.ne_nil
  have hdigits := ds.isDigit
  simp only [hds, List.forall_mem_cons] at hdigits canonical ⊢
  obtain ⟨hc, hcs⟩ := hdigits
  rw [bytes_ascii (ascii_of_isDigitChar hc), List.cons_append]
  simp only [readWhole, isDigit_code hc, Bool.not_true, if_neg Bool.false_ne_true]
  by_cases hzero : c = '0'
  · subst hzero
    obtain rfl := canonical cs rfl
    have hcode : code '0' = 0x30 := rfl
    cases rest with
    | nil => rfl
    | cons b rest => simp [hcode, hrest b (by simp)]
  · have hne : code c ≠ 0x30 := fun h => hzero <| Char.toNat_inj.mp <| by
      rw [← toNat_code (ascii_of_isDigitChar hc), h]
      rfl
    rw [if_neg (by simpa using hne), takeWhile_digits hcs hrest, dropWhile_digits hcs hrest]

/-- A fraction is read if it is there, and nothing is if it is not. -/
lemma readFraction_chars (m : Numeral) (hrest : EndsDigits rest)
    (hpoint : ∀ b ∈ rest.head?, b ≠ 0x2E) :
    readFraction size (bytes m.fractionChars ++ rest) =
      .ok (m.fraction.map fun ds => bytes ds.chars, rest) := by
  rw [Numeral.fractionChars]
  cases m.fraction with
  | none =>
      cases rest with
      | nil => rfl
      | cons b rest =>
          have hb := hpoint b (by simp)
          simp [readFraction, hb]
  | some ds =>
      rw [Option.elim_some, bytes_ascii (by decide), List.cons_append]
      have hpoint : code '.' = 0x2E := rfl
      rw [hpoint, readFraction, readDigits_digits ds hrest]
      rfl

lemma readExponent_chars (m : Numeral) (hrest : Ends rest) :
    readExponent size (bytes m.exponentChars ++ rest) =
      .ok (m.exponent.map Numeral.power, rest) := by
  rw [Numeral.exponentChars]
  rcases m.exponent with _ | ⟨negative, ds⟩
  · cases rest with
    | nil => rfl
    | cons b rest =>
        obtain ⟨-, -, hlower, hupper⟩ := hrest b (by simp)
        simp [readExponent, hlower, hupper]
  · have hdigits : readDigits size (bytes ds.chars ++ rest) = .ok (bytes ds.chars, rest) :=
      readDigits_digits ds hrest.digits
    have hmark : code 'e' = 0x65 := rfl
    have hvalue : digitsValue (bytes ds.chars) = ds.value := digitsValue_bytes ds.isDigit
    rw [Option.elim_some, bytes_ascii (by decide), hmark]
    cases negative
    · have hsign : code '+' = 0x2B := rfl
      simp [bytes_ascii, hsign, readExponent, hdigits, Except.map, Numeral.power, hvalue]
    · have hsign : code '-' = 0x2D := rfl
      simp [bytes_ascii, hsign, readExponent, hdigits, Except.map, Numeral.power, hvalue]

/-- Behind the whole part and the fraction stands an exponent, or what ends the numeral. -/
lemma endsDigits_exponent (m : Numeral) (hrest : Ends rest) :
    ∀ b ∈ (bytes m.exponentChars ++ rest).head?, isDigit b = false ∧ b ≠ 0x2E := by
  rw [Numeral.exponentChars]
  rcases m.exponent with _ | ⟨negative, ds⟩
  · exact fun b hb => ⟨(hrest b hb).1, (hrest b hb).2.1⟩
  · rw [Option.elim_some, bytes_ascii (by decide)]
    rintro _ ⟨⟩
    decide

/-- Behind the whole part stands a point, or what may stand behind a fraction. -/
lemma endsDigits_fraction (m : Numeral) (hrest : Ends rest) :
    EndsDigits (bytes m.fractionChars ++ (bytes m.exponentChars ++ rest)) := by
  rw [Numeral.fractionChars]
  cases m.fraction with
  | none => exact fun b hb => (endsDigits_exponent m hrest b hb).1
  | some ds =>
      rw [Option.elim_some, bytes_ascii (by decide)]
      rintro _ ⟨⟩
      rfl

/-! ### Numerals -/

/-- An unsigned numeral is read as its value. -/
lemma readNumber_numeral (m : Numeral) (hrest : Ends rest) :
    readNumber size dialect m.negative (bytes m.unsigned ++ rest) =
      (m.value dialect).map fun v => (v, rest) := by
  have hexponent := endsDigits_exponent m hrest
  rw [Numeral.unsigned, bytes_append, bytes_append, List.append_assoc, List.append_assoc,
    readNumber, readWhole_digits m.whole m.canonical (endsDigits_fraction m hrest)]
  simp only [readFraction_chars m (fun b hb => (hexponent b hb).1) fun b hb => (hexponent b hb).2,
    readExponent_chars m hrest]
  rfl

lemma readPlain_digit (hb : isDigit b) :
    readPlain size dialect (b :: rest) = readNumber size dialect false (b :: rest) := by
  simp only [isDigit, Bool.and_eq_true, decide_eq_true_eq, UInt8.le_iff_toNat_le] at hb
  obtain ⟨hzero, hnine⟩ := hb
  have hb : b = UInt8.ofNat b.toNat := UInt8.ofNat_toNat.symm
  have hmin : (0x30 : UInt8).toNat = 48 := rfl
  have hmax : (0x39 : UInt8).toNat = 57 := rfl
  generalize b.toNat = n at *
  rw [hmin] at hzero
  rw [hmax] at hnine
  subst hb
  interval_cases n <;> rfl

/-- Behind a minus sign, a digit begins a number in both dialects. -/
lemma readPlain_minus (hb : isDigit b) :
    readPlain size dialect (0x2D :: b :: rest) = readNumber size dialect true (b :: rest) := by
  have hword : b ≠ 0x49 := by
    rintro rfl
    exact absurd hb (by decide)
  cases dialect <;> simp [readPlain, hword]

/-- **A numeral is read as its value**, up to what ends it. -/
theorem readPlain_numeral (m : Numeral) (hrest : Ends rest) :
    readPlain size dialect (bytes m.chars ++ rest) =
      (m.value dialect).map fun v => (v, rest) := by
  rw [← readNumber_numeral m hrest, Numeral.chars]
  obtain ⟨c, cs, hds⟩ := List.exists_cons_of_ne_nil m.whole.ne_nil
  have hc : c.isDigit := m.whole.isDigit c (hds ▸ List.mem_cons_self)
  have hunsigned : bytes m.unsigned ++ rest =
      code c :: (bytes (cs ++ (m.fractionChars ++ m.exponentChars)) ++ rest) := by
    rw [Numeral.unsigned, hds, List.cons_append, bytes_ascii (ascii_of_isDigitChar hc),
      List.cons_append]
  cases hsign : m.negative
  · rw [if_neg Bool.false_ne_true, hunsigned, readPlain_digit (isDigit_code hc)]
  · rw [if_pos rfl, bytes_ascii (by decide), List.cons_append, hunsigned]
    exact readPlain_minus (isDigit_code hc)

end

/-! ### Integers -/

/-- An integer that is not too long for a dialect. -/
def Dialect.Admits (dialect : Dialect) (n : ℤ) : Prop :=
  n.natAbs < 10 ^ dialect.digitLimit (decide (n < 0))

lemma Dialect.digitLimit_le (dialect : Dialect) (negative : Bool) :
    dialect.digitLimit negative ≤ maxDigits := by
  cases dialect <;> cases negative <;> decide

lemma Dialect.digitLimit_strict_le (dialect : Dialect) (negative : Bool) :
    Dialect.strict.digitLimit negative ≤ dialect.digitLimit negative := by
  cases dialect <;> cases negative <;> decide

lemma Dialect.Admits.natAbs_lt {dialect : Dialect} {n : ℤ} (h : dialect.Admits n) :
    n.natAbs < 10 ^ maxDigits :=
  h.trans_le (Nat.pow_le_pow_right (by decide) (dialect.digitLimit_le _))

/-- What strict reading has room for, every dialect has. -/
lemma Dialect.admits_of_strict {dialect : Dialect} {n : ℤ} (h : Dialect.strict.Admits n) :
    dialect.Admits n :=
  h.trans_le (Nat.pow_le_pow_right (by decide) (dialect.digitLimit_strict_le _))

/-- A whole part that is not too long behind its sign is an integer that is not. -/
lemma Dialect.admits_of_natAbs {dialect : Dialect} {negative : Bool} {n : ℕ}
    (h : n < 10 ^ dialect.digitLimit negative) :
    dialect.Admits (if negative then -(n : ℤ) else n) := by
  rw [Admits]
  rcases Nat.eq_zero_or_pos n with rfl | hpos
  · -- zero has no sign
    cases negative <;> exact Nat.pow_pos (by decide)
  · have hsign : decide ((if negative then -(n : ℤ) else n) < 0) = negative := by
      cases negative <;> simp [hpos]
    have habs : (if negative then -(n : ℤ) else n).natAbs = n := by
      cases negative <;> simp
    rwa [hsign, habs]

end Json

namespace Numeral

/-- No digits of a number begin with a zero, except those of zero. -/
lemma canonical_toDigits (n : ℕ) (rest : List Char) (h : Nat.toDigits 10 n = '0' :: rest) :
    rest = [] := by
  induction n using Nat.strongRecOn generalizing rest with
  | ind n ih =>
      rcases Nat.lt_or_ge n 10 with hn | hn
      · rw [Nat.toDigits_of_lt_base hn] at h
        exact (List.cons.inj h).2.symm
      · obtain ⟨c, cs, hlead⟩ :=
          List.exists_cons_of_ne_nil (Digits.ofNat (n / 10)).ne_nil
        change Nat.toDigits 10 (n / 10) = c :: cs at hlead
        rw [Nat.toDigits_of_base_le (by decide) hn, hlead, List.cons_append] at h
        obtain rfl := (List.cons.inj h).1
        obtain rfl := ih (n / 10) (by omega) cs hlead
        -- the digits of the tenth part are a lone zero, so that is zero
        have hzero : n / 10 = 0 := by
          calc
            n / 10 = Nat.ofDigitChars 10 (Nat.toDigits 10 (n / 10)) 0 :=
              (Digits.value_ofNat (n / 10)).symm
            _ = 0 := by rw [hlead]; rfl
        omega

/-- The numeral of an integer. -/
def ofInt (n : ℤ) : Numeral where
  negative := decide (n < 0)
  whole := .ofNat n.natAbs
  canonical := canonical_toDigits n.natAbs
  fraction := none
  exponent := none

lemma chars_ofInt (n : ℤ) : (ofInt n).chars = (toString n).toList := by
  have hunsigned : (ofInt n).unsigned = Nat.toDigits 10 n.natAbs := by
    simp [unsigned, fractionChars, exponentChars, ofInt, Digits.ofNat]
  rw [chars, hunsigned, Int.toString_eq_repr]
  rcases n with n | n
  · rw [ofInt, Int.repr, Nat.toList_repr]
    simp
  · rw [ofInt, Int.repr, String.toList_append, Nat.toList_repr]
    simp [Int.negSucc_lt_zero]

/-- The digits of an integer are as many as its dialect has room for if the integer is. -/
lemma length_digits_le_iff {n : ℤ} {k : ℕ} (hk : 0 < k) :
    (bytes (ofInt n).whole.chars).length ≤ k ↔ n.natAbs < 10 ^ k := by
  have hdigits : ∀ c ∈ Nat.toDigits 10 n.natAbs, c.isDigit := (Digits.ofNat n.natAbs).isDigit
  change (bytes (Nat.toDigits 10 n.natAbs)).length ≤ k ↔ _
  rw [Json.bytes_digits hdigits, List.length_map, Nat.length_toDigits_le_iff (by decide) hk]

/-- **An integer is read from its numeral** if it is not too long, and refused otherwise. -/
lemma value_ofInt (dialect : Json.Dialect) (n : ℤ) :
    (dialect.Admits n → (ofInt n).value dialect = .ok (.int n)) ∧
    (¬dialect.Admits n → ∃ digits,
      (ofInt n).value dialect = .error (.integerOutOfRange digits [])) := by
  have hpos : 0 < dialect.digitLimit (decide (n < 0)) := by
    cases dialect <;> cases decide (n < 0) <;> decide
  have hvalue : Json.digitsValue (bytes (ofInt n).whole.chars) = n.natAbs := by
    rw [Json.digitsValue_bytes (ofInt n).whole.isDigit]
    exact Digits.value_ofNat n.natAbs
  have hnumber : (ofInt n).value dialect =
      if (bytes (ofInt n).whole.chars).length > dialect.digitLimit (decide (n < 0)) then
        .error (.integerOutOfRange (bytes (ofInt n).whole.chars).length [])
      else .ok (.int (if decide (n < 0) then -(n.natAbs : ℤ) else n.natAbs)) := by
    rw [← hvalue]
    rfl
  have hsign : (if decide (n < 0) then -(n.natAbs : ℤ) else n.natAbs) = n := by
    split_ifs with hsign <;> rw [decide_eq_true_eq] at hsign <;> omega
  rw [hnumber, hsign]
  constructor
  · intro h
    rw [if_neg (not_lt.mpr ((length_digits_le_iff hpos).mpr h))]
  · intro h
    exact ⟨_, if_pos (not_le.mp ((length_digits_le_iff hpos).not.mpr h))⟩

/-- Strict reading has room for the integers whose text, with its sign, has at most `maxDigits`
characters. -/
lemma admits_strict_iff {n : ℤ} :
    Json.Dialect.strict.Admits n ↔ (toString n).length ≤ Json.maxDigits := by
  have hchars : (toString n).length = (ofInt n).chars.length := by
    rw [chars_ofInt, String.length_toList]
  have hunsigned : (ofInt n).unsigned = Nat.toDigits 10 n.natAbs := by
    simp [unsigned, fractionChars, exponentChars, ofInt, Digits.ofNat]
  have hdigits (k : ℕ) (hk : 0 < k) : (Nat.toDigits 10 n.natAbs).length ≤ k ↔ n.natAbs < 10 ^ k :=
    Nat.length_toDigits_le_iff (by decide) hk
  rw [hchars, chars, hunsigned, Json.Dialect.Admits]
  by_cases hsign : n < 0
  · have hlimit : Json.Dialect.strict.digitLimit true = Json.maxDigits - 1 := rfl
    have hsucc : Json.maxDigits = Json.maxDigits - 1 + 1 := by decide
    have hnegative : (ofInt n).negative = true := decide_eq_true hsign
    rw [decide_eq_true hsign, hlimit, hnegative, if_pos rfl, List.length_cons, hsucc,
      Nat.succ_le_succ_iff, hdigits _ (by decide), Nat.add_sub_cancel]
  · have hlimit : Json.Dialect.strict.digitLimit false = Json.maxDigits := rfl
    have hnegative : (ofInt n).negative = false := decide_eq_false hsign
    rw [decide_eq_false hsign, hlimit, hnegative, if_neg Bool.false_ne_true, hdigits _ (by decide)]

end Numeral

end LivePage
