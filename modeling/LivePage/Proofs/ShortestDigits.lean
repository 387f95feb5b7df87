/-
The shortest digits of a double are read as that double, in every layout. On the
finest grid one of the neighbours of a double always reads back, so the search
never fails.

* `Magnitude.readsBack_shortest`: the search ends at a decimal that reads back;
* `Numeral.exists_write`: the text of a finite double is a numeral for it.
-/
import LivePage.Double.Layout
import LivePage.Proofs.Numerals
import LivePage.Proofs.Rounding

namespace LivePage

namespace Magnitude

variable {m : Magnitude}

/-! ### The search -/

lemma readsBack_of_onGrid? {exponent : ℤ} {d : Decimal} (h : m.onGrid? exponent = some d) :
    m.readsBack d := by
  simp only [onGrid?] at h
  split at h
  · cases h
    assumption
  · cases h
    assumption
  · split at h <;> cases h <;> assumption
  · cases h

/-- The finest grid is finer than any two neighbouring doubles are apart. -/
lemma finest_lt : (decimalScale (-325)).1 < (decimalScale (-325)).2 := by decide +kernel

lemma finest_pos : 0 < (decimalScale (-325)).1 := by decide +kernel

/-- On the finest grid the neighbour below a magnitude reads back. -/
lemma isSome_onGrid?_finest (hpos : 0 < m.rank) : (m.onGrid? (-325)).isSome := by
  have hprevious : unitsAt (m.rank - 1) < m.units :=
    unitsAt_strictMono (Nat.sub_lt hpos Nat.one_pos)
  have hnext : m.units < unitsAt (m.rank + 1) := unitsAt_strictMono (Nat.lt_succ_self _)
  have hfinest := finest_lt
  have hstep := finest_pos
  have hlower : m.readsBack
      ⟨2 * m.units * (decimalScale (-325)).2 / (decimalScale (-325)).1, -325⟩ := by
    rw [readsBack_iff]
    simp only [bounds]
    generalize (decimalScale (-325)).1 = up at *
    generalize (decimalScale (-325)).2 = down at *
    have hbelow := Nat.div_mul_le_self (2 * m.units * down) up
    have habove := Nat.lt_div_mul_add (a := 2 * m.units * down) hstep
    have hlow : (unitsAt (m.rank - 1) + m.units + 1) * down ≤ 2 * m.units * down :=
      Nat.mul_le_mul_right down (by omega)
    have hhigh : (2 * m.units + 1) * down ≤ (m.units + unitsAt (m.rank + 1)) * down :=
      Nat.mul_le_mul_right down (by omega)
    rw [Nat.add_one_mul] at hlow hhigh
    omega
  simp only [onGrid?, hlower]
  cases m.readsBack ⟨2 * m.units * (decimalScale (-325)).2 / (decimalScale (-325)).1 + 1, -325⟩
  · rfl
  · simp only
    split <;> rfl

lemma readsBack_searchGrids (hpos : 0 < m.rank) {fuel : ℕ} {exponent : ℤ}
    (hfinest : -325 ≤ exponent) (hfuel : exponent + 325 < fuel) :
    m.readsBack (m.searchGrids fuel exponent) := by
  induction fuel generalizing exponent with
  | zero => simp at hfuel; omega
  | succ fuel ih =>
      rw [searchGrids]
      cases hgrid : m.onGrid? exponent with
      | some d => exact readsBack_of_onGrid? hgrid
      | none =>
          have hne : exponent ≠ -325 := by
            rintro rfl
            have hsome := isSome_onGrid?_finest hpos
            rw [hgrid] at hsome
            exact nomatch hsome
          exact ih (by omega) (by omega)

/-- **The shortest digits read back.** -/
theorem readsBack_shortest (hpos : 0 < m.rank) : m.readsBack m.shortest := by
  have hcoarsest : -325 ≤ m.coarsest := by
    simp only [coarsest]
    split <;> omega
  exact readsBack_searchGrids hpos hcoarsest (by omega)

/-- Powers of ten may go from the exponent into the digits, with one zero behind the point. -/
lemma readsBack_tenths {digits up : ℕ} (h : m.readsBack ⟨digits, (up : ℤ)⟩) :
    m.readsBack ⟨digits * 10 ^ (up + 1), -1⟩ := by
  have hup : decimalScale (up : ℤ) = (10 ^ up * Nat.pow 2 1075, 1) := rfl
  have htenth : decimalScale (-1) = (Nat.pow 2 1075, 10) := rfl
  rw [readsBack_iff] at h ⊢
  simp only [hup, htenth] at h ⊢
  generalize Nat.pow 2 1075 = unit at *
  have hpoint : digits * 10 ^ (up + 1) * unit = digits * (10 ^ up * unit) * 10 := by ring
  rw [hpoint]
  omega

end Magnitude

namespace Numeral

open Utf8

/-! ### Numerals of doubles -/

/-- The digits behind the point. -/
def places (m : Numeral) : List Char := m.fraction.elim [] Digits.chars

/-- The number that the digits of a numeral spell, with its power of ten. -/
def decimal (m : Numeral) : Decimal :=
  ⟨Nat.ofDigitChars 10 (m.whole.chars ++ m.places) 0,
    (m.exponent.map power).getD 0 - m.places.length⟩

/-- A numeral with a fraction or an exponent is read as a double, if that is finite. -/
lemma value_eq_num {m : Numeral} {size : Magnitude} {dialect : Json.Dialect}
    (hdouble : m.fraction.isSome ∨ m.exponent.isSome)
    (hfinite : size.isInfinite = false)
    (hread : Magnitude.ofDecimal m.decimal.digits m.decimal.exponent = size) :
    m.value dialect = .ok (.num (.signed m.negative size)) := by
  have hnone : (m.fraction.isNone && m.exponent.isNone) = false := by
    cases hfraction : m.fraction <;> cases hexponent : m.exponent <;> simp_all
  have hplaces : (m.fraction.map fun ds => bytes ds.chars).getD [] = bytes m.places := by
    rw [places]
    cases m.fraction <;> rfl
  have hisDigit : ∀ c ∈ m.places, c.isDigit := by
    rw [places]
    cases m.fraction with
    | none => simp
    | some ds => exact ds.isDigit
  have hdigits : Json.digitsValue (bytes m.whole.chars ++ bytes m.places) = m.decimal.digits := by
    rw [← bytes_append, Json.digitsValue_bytes]
    · rfl
    · exact List.forall_mem_append.mpr ⟨m.whole.isDigit, hisDigit⟩
  have hlength : (bytes m.places).length = m.places.length := by
    rw [Json.bytes_digits hisDigit, List.length_map]
  simp only [value, Json.number, Option.isNone_map, hnone, hplaces, hdigits, hlength]
  have hdecimal : Double.ofDecimal m.negative m.decimal.digits
      ((m.exponent.map power).getD 0 - m.places.length) = .signed m.negative size := by
    rw [Double.ofDecimal, ← hread]
    rfl
  rw [hdecimal]
  simp [Double.isInfinite, hfinite]

/-! ### Layouts -/

/-- Zeros in front do not count. -/
lemma value_padded (width n : ℕ) :
    Nat.ofDigitChars 10 (NumberLayout.padded width (Nat.toDigits 10 n)) 0 = n := by
  rw [NumberLayout.padded, Nat.ofDigitChars_append, Nat.ofDigitChars_replicate_zero, Nat.mul_zero]
  exact Digits.value_ofNat n

lemma isDigit_replicate {n : ℕ} {cs : List Char} (hcs : ∀ c ∈ cs, c.isDigit) :
    ∀ c ∈ List.replicate n '0' ++ cs, c.isDigit := by
  refine List.forall_mem_append.mpr ⟨fun c hc => ?_, hcs⟩
  rw [List.eq_of_mem_replicate hc]
  rfl

/-- A lone zero. -/
def lone : Digits where
  chars := ['0']
  ne_nil := List.cons_ne_nil _ _
  isDigit := List.forall_mem_singleton.mpr rfl

@[simp] lemma chars_lone : lone.chars = ['0'] := rfl

/-- Digits of a number in front of which zeros stand. -/
def padded (width n : ℕ) : Digits where
  chars := NumberLayout.padded width (Nat.toDigits 10 n)
  ne_nil := by simp [NumberLayout.padded]
  isDigit := isDigit_replicate (Digits.ofNat n).isDigit

/-- Digits that are there, as a fraction. -/
def fractionOf (cs : List Char) (hcs : ∀ c ∈ cs, c.isDigit) : Option Digits :=
  if hne : cs = [] then none else some ⟨cs, hne, hcs⟩

lemma elim_fractionOf {cs : List Char} (hcs : ∀ c ∈ cs, c.isDigit) :
    (fractionOf cs hcs).elim [] Digits.chars = cs ∧
      ((fractionOf cs hcs).elim [] fun ds => '.' :: ds.chars) =
        if cs = [] then [] else '.' :: cs := by
  rw [fractionOf]
  split <;> simp_all

section

variable {n : ℕ} {c : Char} {cs : List Char} (h : Nat.toDigits 10 n = c :: cs)

include h

lemma value_of_toDigits : Nat.ofDigitChars 10 (c :: cs) 0 = n := h ▸ Digits.value_ofNat n

lemma isDigit_of_toDigits : ∀ c' ∈ c :: cs, c'.isDigit := h ▸ (Digits.ofNat n).isDigit

/-- The digits of a positive number do not begin with a zero. -/
lemma ne_zero_of_toDigits (hn : 0 < n) : c ≠ '0' := by
  rintro rfl
  obtain rfl := canonical_toDigits n cs h
  exact absurd (value_of_toDigits h) hn.ne

end

variable {layout : NumberLayout} {d : Decimal} {c : Char} {cs : List Char}

/-- A numeral in scientific notation. -/
lemma exists_scientific (negative : Bool) (hdigits : Nat.toDigits 10 d.digits = c :: cs)
    {exponent : ℤ} (hexponent : d.exponent + cs.length = exponent) :
    ∃ m : Numeral, m.negative = negative ∧ m.exponent.isSome ∧ m.decimal = d ∧
      m.unsigned = layout.scientific (c :: cs) exponent := by
  have hvalue := value_of_toDigits hdigits
  have hisDigit := isDigit_of_toDigits hdigits
  obtain ⟨hc, hcs⟩ := List.forall_mem_cons.mp hisDigit
  obtain ⟨hplaces, hchars⟩ := elim_fractionOf hcs
  refine ⟨{
    negative
    whole := ⟨[c], by simp, by simpa using hc⟩
    canonical := by rintro rest ⟨⟩; rfl
    fraction := fractionOf cs hcs
    exponent := some (decide (exponent < 0), padded layout.exponentWidth exponent.natAbs) },
    rfl, rfl, ?_, ?_⟩
  · have hpower : power (decide (exponent < 0), padded layout.exponentWidth exponent.natAbs) =
        exponent := by
      have hnatAbs : (padded layout.exponentWidth exponent.natAbs).value = exponent.natAbs :=
        value_padded _ _
      rw [power, hnatAbs]
      simp only [decide_eq_true_eq]
      split <;> omega
    rw [decimal, places, hplaces, Option.map_some, Option.getD_some, hpower]
    exact congrArg₂ Decimal.mk hvalue (by omega)
  · simp only [unsigned, fractionChars, exponentChars, hchars, NumberLayout.scientific, padded,
      Option.elim_some, List.isEmpty_iff, decide_eq_true_eq]
    split <;> rfl

/-- A numeral below one, with zeros behind the point. -/
lemma exists_below_one (negative : Bool) (hdigits : Nat.toDigits 10 d.digits = c :: cs)
    (hexponent : d.exponent + cs.length < 0) :
    ∃ m : Numeral, m.negative = negative ∧ m.fraction.isSome ∧ m.decimal = d ∧
      m.unsigned = NumberLayout.positional []
        (List.replicate ((d.exponent + cs.length).natAbs - 1) '0' ++ c :: cs) := by
  have hvalue := value_of_toDigits hdigits
  have hisDigit := isDigit_of_toDigits hdigits
  generalize hzeros : (d.exponent + cs.length).natAbs - 1 = zeros
  refine ⟨{
    negative
    whole := lone
    canonical := by rintro rest ⟨⟩; rfl
    fraction := some ⟨List.replicate zeros '0' ++ c :: cs, by simp, isDigit_replicate hisDigit⟩
    exponent := none }, rfl, rfl, ?_, ?_⟩
  · have hall :
        Nat.ofDigitChars 10 ('0' :: (List.replicate zeros '0' ++ c :: cs)) 0 = d.digits := by
      rw [← List.cons_append, ← List.replicate_succ, Nat.ofDigitChars_append,
        Nat.ofDigitChars_replicate_zero, Nat.mul_zero, hvalue]
    rw [decimal, places]
    refine congrArg₂ Decimal.mk hall ?_
    simp only [Option.map_none, Option.getD_none, Option.elim_some, List.length_append,
      List.length_replicate, List.length_cons]
    omega
  · simp [unsigned, fractionChars, exponentChars, NumberLayout.positional]

/-- A numeral with its point among the digits. -/
lemma exists_around_point (negative : Bool) (hpos : 0 < d.digits)
    (hdigits : Nat.toDigits 10 d.digits = c :: cs) {n : ℕ} (hwhole : d.exponent + cs.length = n)
    (hlt : n < cs.length) :
    ∃ m : Numeral, m.negative = negative ∧ m.fraction.isSome ∧ m.decimal = d ∧
      m.unsigned = NumberLayout.positional ((c :: cs).take (n + 1)) ((c :: cs).drop (n + 1)) := by
  have hvalue := value_of_toDigits hdigits
  have hisDigit := isDigit_of_toDigits hdigits
  have hdrop : (c :: cs).drop (n + 1) ≠ [] := by simpa using hlt
  refine ⟨{
    negative
    whole := ⟨(c :: cs).take (n + 1), by simp,
      fun c' hc' => hisDigit c' (List.mem_of_mem_take hc')⟩
    canonical := fun rest h => absurd (List.cons.inj h).1 (ne_zero_of_toDigits hdigits hpos)
    fraction := some ⟨(c :: cs).drop (n + 1), hdrop,
      fun c' hc' => hisDigit c' (List.mem_of_mem_drop hc')⟩
    exponent := none }, rfl, rfl, ?_, ?_⟩
  · have hall : Nat.ofDigitChars 10 ((c :: cs).take (n + 1) ++ (c :: cs).drop (n + 1)) 0 =
        d.digits := by
      rw [List.take_append_drop, hvalue]
    rw [decimal, places]
    refine congrArg₂ Decimal.mk hall ?_
    simp only [Option.map_none, Option.getD_none, Option.elim_some, List.length_drop,
      List.length_cons]
    omega
  · rw [NumberLayout.positional]
    simp only [List.isEmpty_iff, hdrop, if_false]
    simp [unsigned, fractionChars, exponentChars]

/-- A numeral with its point behind the digits and any number of zeros. A zero is put behind the
point. -/
lemma exists_before_point (negative : Bool) (hpos : 0 < d.digits)
    (hdigits : Nat.toDigits 10 d.digits = c :: cs) (zeros : ℕ) :
    ∃ m : Numeral, m.negative = negative ∧ m.fraction.isSome ∧
      m.decimal = ⟨d.digits * 10 ^ (zeros + 1), -1⟩ ∧
      m.unsigned = NumberLayout.positional (c :: cs ++ List.replicate zeros '0') [] := by
  have hvalue := value_of_toDigits hdigits
  have hisDigit := isDigit_of_toDigits hdigits
  refine ⟨{
    negative
    whole := ⟨c :: cs ++ List.replicate zeros '0', by simp, ?_⟩
    canonical := fun rest h => absurd (List.cons.inj h).1 (ne_zero_of_toDigits hdigits hpos)
    fraction := some lone
    exponent := none }, rfl, rfl, ?_, ?_⟩
  · refine List.forall_mem_append.mpr ⟨hisDigit, fun c' hc' => ?_⟩
    rw [List.eq_of_mem_replicate hc']
    rfl
  · have hscaled : Nat.ofDigitChars 10 (c :: cs ++ List.replicate zeros '0' ++ ['0']) 0 =
        d.digits * 10 ^ (zeros + 1) := by
      rw [List.append_assoc, ← List.replicate_succ', Nat.ofDigitChars_append, hvalue,
        Nat.ofDigitChars_replicate_zero, Nat.mul_comm]
    rw [decimal, places]
    exact congrArg₂ Decimal.mk hscaled rfl
  · simp [unsigned, fractionChars, exponentChars, NumberLayout.positional]

/-- A numeral of at least one. Digits that reach up to the point get a zero behind it. -/
lemma exists_from_one (negative : Bool) (hpos : 0 < d.digits)
    (hdigits : Nat.toDigits 10 d.digits = c :: cs) (whole : ℕ)
    (hwhole : d.exponent + cs.length + 1 = whole) (hwhole_pos : 0 < whole) :
    ∃ m : Numeral, m.negative = negative ∧ m.fraction.isSome ∧
      (m.decimal = d ∨ ∃ up : ℕ, d.exponent = up ∧ m.decimal = ⟨d.digits * 10 ^ (up + 1), -1⟩) ∧
      m.unsigned = NumberLayout.positional
        ((c :: cs).take whole ++ List.replicate (whole - (c :: cs).length) '0')
        ((c :: cs).drop whole) := by
  obtain ⟨n, rfl⟩ := Nat.exists_eq_succ_of_ne_zero hwhole_pos.ne'
  have hzeros : n.succ - (c :: cs).length = n - cs.length := by
    rw [List.length_cons]
    omega
  rcases lt_or_ge n cs.length with hlt | hge
  · obtain ⟨m, hnegative, hdouble, hdecimal, htext⟩ :=
      exists_around_point negative hpos hdigits (by omega) hlt
    refine ⟨m, hnegative, hdouble, .inl hdecimal, ?_⟩
    rw [htext, hzeros, Nat.sub_eq_zero_of_le hlt.le, List.replicate_zero, List.append_nil]
  · obtain ⟨m, hnegative, hdouble, hdecimal, htext⟩ :=
      exists_before_point negative hpos hdigits (n - cs.length)
    refine ⟨m, hnegative, hdouble, .inr ⟨n - cs.length, by omega, hdecimal⟩, ?_⟩
    have hall : (c :: cs).length ≤ n.succ := by simpa using hge
    rw [htext, hzeros, List.take_of_length_le hall, List.drop_of_length_le hall]

/-- **The shortest digits of a positive magnitude are a numeral for it**, in every layout. -/
lemma exists_writeDecimal (layout : NumberLayout) (negative : Bool) {size : Magnitude}
    (hpos : 0 < size.rank) (hfinite : size.rank < Magnitude.top) :
    ∃ m : Numeral, m.unsigned = layout.writeDecimal size.shortest ∧ m.negative = negative ∧
      ∀ dialect, m.value dialect = .ok (.num (.signed negative size)) := by
  have hback := Magnitude.readsBack_shortest hpos
  have hdigitsPos := Magnitude.readsBack_digits_pos hpos hback
  have hnotInfinite : size.isInfinite = false := by simpa [Magnitude.isInfinite] using hfinite.ne
  generalize size.shortest = d at *
  -- a numeral that spells a decimal that reads back is read as the magnitude
  have hvalue {m : Numeral} (hnegative : m.negative = negative)
      (hdouble : m.fraction.isSome ∨ m.exponent.isSome) (hread : size.readsBack m.decimal)
      (dialect : Json.Dialect) : m.value dialect = .ok (.num (.signed negative size)) := by
    rw [← hnegative]
    exact value_eq_num hdouble hnotInfinite
      (Magnitude.ofDecimal_of_readsBack hpos hfinite hread)
  obtain ⟨c, cs, hdigits⟩ := List.exists_cons_of_ne_nil (Digits.ofNat d.digits).ne_nil
  change Nat.toDigits 10 d.digits = c :: cs at hdigits
  have hexponent : d.exponent + (c :: cs).length - 1 = d.exponent + cs.length := by
    rw [List.length_cons]
    omega
  simp only [NumberLayout.writeDecimal, hdigits, hexponent]
  split_ifs with hscientific hbelow
  · obtain ⟨m, hnegative, hdouble, hdecimal, htext⟩ := exists_scientific negative hdigits rfl
    exact ⟨m, htext, hnegative, hvalue hnegative (.inr hdouble) (hdecimal ▸ hback)⟩
  · obtain ⟨m, hnegative, hdouble, hdecimal, htext⟩ := exists_below_one negative hdigits hbelow
    exact ⟨m, htext, hnegative, hvalue hnegative (.inl hdouble) (hdecimal ▸ hback)⟩
  · obtain ⟨m, hnegative, hdouble, hdecimal, htext⟩ :=
      exists_from_one negative hdigitsPos hdigits ((d.exponent + cs.length).toNat + 1) (by omega)
        (Nat.succ_pos _)
    refine ⟨m, htext, hnegative, hvalue hnegative (.inl hdouble) ?_⟩
    rcases hdecimal with hsame | ⟨up, hup, htenths⟩
    · exact hsame ▸ hback
    · rw [htenths]
      exact Magnitude.readsBack_tenths (hup ▸ hback)

/-- **The text of a finite double is a numeral for that double**, in every layout. -/
theorem exists_write (layout : NumberLayout) {x : Double} (hx : x.isFinite) :
    ∃ m : Numeral, m.chars = (x.write layout).toList ∧
      ∀ dialect, m.value dialect = .ok (.num x) := by
  rcases x with payload | ⟨negative, size⟩
  · exact nomatch hx
  · have hinfinite : size.isInfinite = false := by simpa [Double.isFinite] using hx
    have hfinite : size.rank < Magnitude.top :=
      lt_of_le_of_ne size.rank_le (by simpa [Magnitude.isInfinite] using hinfinite)
    simp only [Double.write, hinfinite, if_neg Bool.false_ne_true, String.toList_ofList]
    rcases Nat.eq_zero_or_pos size.rank with hzero | hpos
    · have hsize : size = Magnitude.zero := by
        rw [← Magnitude.ofRank_rank size, hzero, Magnitude.zero]
      subst hsize
      refine ⟨{
        negative
        whole := lone
        canonical := by rintro rest ⟨⟩; rfl
        fraction := some lone
        exponent := none }, ?_, ?_⟩
      · rw [hzero, if_pos rfl]
        rfl
      · exact fun dialect => value_eq_num (.inl rfl) rfl rfl
    · obtain ⟨m, htext, hnegative, hvalue⟩ := exists_writeDecimal layout negative hpos hfinite
      refine ⟨m, ?_, hvalue⟩
      rw [chars, hnegative, htext, if_neg hpos.ne']

end Numeral

end LivePage
