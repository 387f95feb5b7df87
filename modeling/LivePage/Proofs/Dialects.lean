/-
The strict dialect of JSON inside the other one. A text that is read strictly
is read as the same value in either dialect, and that value can be written
again: no integer of it is too long, with its sign or without, and no double is
without digits.

* `Json.Writable`: a part that a text has room for;
* `Json.IsStandard`: a part that strict reading has a text for;
* `Json.Agrees`: what strict reading gives, other reading gives as well;
* `Json.read_agrees`: whole inputs.
-/
import LivePage.Json.Reader
import LivePage.Proofs.Inputs
import LivePage.Proofs.Nesting
import LivePage.Proofs.Numerals

namespace LivePage

namespace Members

variable {α : Type} {P : α → Prop} {ms : Members α}

/-! ### Members that are set -/

lemma forall_ofReverse (hms : ∀ m ∈ ms, P m.2) : ∀ m ∈ ofReverse ms, P m.2 :=
  forall_putAll nofun fun m hm => hms m (List.mem_reverse.mp hm)

lemma nodup_keys_ofReverse : (ofReverse ms).keys.Nodup := nodup_keys_putAll List.nodup_nil

end Members

namespace Json

open Value

/-- A part that a text has room for: an integer that is not too long, an object in which no name is
repeated, and a double of any kind. -/
def Writable : Value → Prop
  | .int n => n.natAbs < 10 ^ maxDigits
  | .obj members => (Members.keys members).Nodup
  | _ => True

/-- A part that strict reading has a text for: an integer of which the text, with its sign, has at
most `maxDigits` characters, and a finite double. -/
def IsStandard : Value → Prop
  | .int n => (toString n).length ≤ maxDigits
  | .num x => x.isFinite
  | _ => True

/-- A part of a value that is read strictly. -/
def IsStrict (v : Value) : Prop := Writable v ∧ IsStandard v

/-- What strict reading gives, other reading gives as well. -/
def Agrees (strict other : Except Error (Value × Rest)) : Prop :=
  ∀ v rest, strict = .ok (v, rest) → other = .ok (v, rest) ∧ v.Throughout IsStrict

section

variable {size fuel : ℕ} {dialect : Dialect}

lemma agrees_error (e : Error) (other : Except Error (Value × Rest)) :
    Agrees (.error e) other := nofun

lemma agrees_malformed (what : Complaint) (left : Rest) (other : Except Error (Value × Rest)) :
    Agrees (malformed size what left) other := nofun

lemma agrees_ok {v : Value} (hv : v.Throughout IsStrict) (rest : Rest) :
    Agrees (.ok (v, rest)) (.ok (v, rest)) := by
  rintro _ _ ⟨⟩
  exact ⟨rfl, hv⟩

/-! ### Plain values -/

/-- Digits spell a number with no more digits. -/
lemma digitsValue_lt {digits : List UInt8} (hdigits : ∀ b ∈ digits, isDigit b) :
    digitsValue digits < 10 ^ digits.length := by
  induction digits using List.reverseRecOn with
  | nil => decide
  | append_singleton digits b ih =>
      rw [List.forall_mem_append, List.forall_mem_singleton] at hdigits
      have hlt := ih hdigits.1
      have hb : b.toNat - 0x30 ≤ 9 := by
        have hnine := hdigits.2
        simp only [isDigit, Bool.and_eq_true, decide_eq_true_eq, UInt8.le_iff_toNat_le] at hnine
        have hmax : (0x39 : UInt8).toNat = 57 := rfl
        omega
      have hsplit : digitsValue (digits ++ [b]) = 10 * digitsValue digits + (b.toNat - 0x30) := by
        simp only [digitsValue, List.foldl_append, List.foldl_cons, List.foldl_nil]
      rw [hsplit, List.length_append, List.length_singleton, pow_succ]
      omega

/-- A whole part consists of digits. -/
lemma isDigit_of_readWhole {input whole rest : List UInt8}
    (h : readWhole size input = .ok (whole, rest)) : ∀ b ∈ whole, isDigit b := by
  rcases input with _ | ⟨b, more⟩
  · cases h
  have hdigits : ∀ b ∈ more.takeWhile isDigit, isDigit b := List.all_eq_true.mp List.all_takeWhile
  rcases hb : isDigit b <;> simp only [readWhole, hb] at h
  · cases h
  -- a zero stands alone
  by_cases hzero : b = 0x30
  · rw [if_pos (beq_iff_eq.mpr hzero)] at h
    have hwhole : whole = [b] := by
      rcases more with _ | ⟨d, tail⟩
      · cases h
        rfl
      · cases hd : isDigit d <;> simp only [hd] at h <;> cases h
        rfl
    rw [hwhole]
    exact List.forall_mem_singleton.mpr hb
  · simp only [beq_iff_eq, hzero] at h
    cases h
    exact List.forall_mem_cons.mpr ⟨hb, hdigits⟩

lemma readNumber_agrees (negative : Bool) (input : Rest) :
    Agrees (readNumber size .strict negative input) (readNumber size dialect negative input) := by
  simp only [readNumber]
  rcases hwhole : readWhole size input with e | ⟨whole, left⟩
  · exact agrees_error e _
  simp only
  rcases readFraction size left with e | ⟨fraction, left⟩
  · exact agrees_error e _
  simp only
  rcases readExponent size left with e | ⟨exponent, left⟩
  · exact agrees_error e _
  simp only [number]
  split
  · split
    case isTrue => exact agrees_error _ _
    case isFalse hlong =>
      have hlong := Nat.le_of_not_gt hlong
      rw [if_neg (Nat.not_lt.mpr (hlong.trans (dialect.digitLimit_strict_le negative)))]
      have hlt : digitsValue whole < 10 ^ Dialect.strict.digitLimit negative :=
        (digitsValue_lt (isDigit_of_readWhole hwhole)).trans_le
          (Nat.pow_le_pow_right (by decide) hlong)
      have hadmits : Dialect.strict.Admits
          (if negative then -(digitsValue whole : ℤ) else digitsValue whole) :=
        Dialect.admits_of_natAbs hlt
      exact agrees_ok ((throughout_plain_iff (.int _) (by simp) (by simp)).mpr
        ⟨hadmits.natAbs_lt, Numeral.admits_strict_iff.mp hadmits⟩) left
  · split
    case isTrue => exact agrees_error _ _
    case isFalse hfinite =>
      rw [Bool.and_eq_true, not_and_or] at hfinite
      have hfinite : ¬(Double.ofDecimal negative (digitsValue (whole ++ fraction.getD []))
          (exponent.getD 0 - (fraction.getD []).length)).isInfinite := by simpa using hfinite
      rw [if_neg (by simp [hfinite])]
      refine agrees_ok ((throughout_plain_iff (.num _) (by simp) (by simp)).mpr ⟨trivial, ?_⟩) left
      simpa [IsStandard, Double.isFinite, Double.ofDecimal, Double.isInfinite] using hfinite

lemma readWord_agrees {v : Value} (hv : v.Throughout IsStrict) (letters : List Char)
    (input : Rest) : Agrees (readWord size letters v input) (readWord size letters v input) := by
  rw [readWord]
  split
  · exact agrees_ok hv _
  · split
    · exact agrees_error _ _
    · exact agrees_malformed _ _ _

lemma readPlain_agrees (input : Rest) :
    Agrees (readPlain size .strict input) (readPlain size dialect input) := by
  rcases input with _ | ⟨b, rest⟩
  · exact agrees_error _ _
  simp only [readPlain]
  split
  case h_1 | h_2 | h_3 =>
    refine readWord_agrees ?_ _ _
    refine (throughout_plain_iff _ ?_ ?_).mpr ⟨trivial, trivial⟩ <;> simp
  case h_4 =>
    rcases readText size rest with e | ⟨s, left⟩
    · exact agrees_error _ _
    · exact agrees_ok
        ((throughout_plain_iff (.str s) (by simp) (by simp)).mpr ⟨trivial, trivial⟩) left
  case h_5 => exact agrees_malformed _ _ _
  case h_6 => exact agrees_malformed _ _ _
  case h_7 =>
    split
    case h_1 word => exact agrees_malformed _ _ _
    case h_2 => exact readNumber_agrees true rest
  case h_8 =>
    split
    · exact readNumber_agrees false _
    · exact agrees_malformed _ _ _

/-! ### Containers -/

/-- What is read strictly with some fuel is read alike. -/
structure AgreesAt (size : ℕ) (dialect : Dialect) (fuel : ℕ) : Prop where
  value : ∀ input, Agrees (readValue size .strict fuel input) (readValue size dialect fuel input)
  elements : ∀ index (done : List Value) input, (∀ v ∈ done, v.Throughout IsStrict) →
    Agrees (readElements size .strict fuel index done input)
      (readElements size dialect fuel index done input)
  members : ∀ (done : Members Value) input, (∀ m ∈ done, m.2.Throughout IsStrict) →
    Agrees (readMembers size .strict fuel done input) (readMembers size dialect fuel done input)

namespace AgreesAt

lemma value_succ (hat : AgreesAt size dialect fuel) (input : Rest) :
    Agrees (readValue size .strict (fuel + 1) input) (readValue size dialect (fuel + 1) input) := by
  unfold readValue
  split
  case h_1 rest _ =>
    split
    · exact agrees_error _ _
    · exact agrees_ok (throughout_arr_iff.mpr ⟨⟨trivial, trivial⟩, List.forall_mem_nil _⟩) _
    · exact hat.elements _ _ _ (List.forall_mem_nil _)
  case h_2 rest _ =>
    split
    · exact agrees_error _ _
    · exact agrees_ok (throughout_obj_iff.mpr
        ⟨⟨show (Members.keys []).Nodup from List.nodup_nil, trivial⟩, List.forall_mem_nil _⟩) _
    · exact hat.members _ _ (List.forall_mem_nil _)
  case h_3 => exact readPlain_agrees _

lemma elements_succ (hat : AgreesAt size dialect fuel) (index : ℕ) (done : List Value)
    (input : Rest) (hdone : ∀ v ∈ done, v.Throughout IsStrict) :
    Agrees (readElements size .strict (fuel + 1) index done input)
      (readElements size dialect (fuel + 1) index done input) := by
  rw [readElements, readElements]
  rcases hread : readValue size .strict fuel input with e | ⟨v, left⟩
  · exact agrees_error _ _
  obtain ⟨hother, hv⟩ := hat.value input v left hread
  have hdone : ∀ w ∈ v :: done, w.Throughout IsStrict := List.forall_mem_cons.mpr ⟨hv, hdone⟩
  simp only [hother]
  rcases skipSpace left with _ | ⟨b, rest⟩
  · exact agrees_error _ _
  simp only
  split
  · exact agrees_ok (throughout_arr_iff.mpr
      ⟨⟨trivial, trivial⟩, fun w hw => hdone w (List.mem_reverse.mp hw)⟩) rest
  split
  · split
    · exact agrees_malformed _ _ _
    · exact hat.elements _ _ _ hdone
  · exact agrees_malformed _ _ _

lemma members_succ (hat : AgreesAt size dialect fuel) (done : Members Value) (input : Rest)
    (hdone : ∀ m ∈ done, m.2.Throughout IsStrict) :
    Agrees (readMembers size .strict (fuel + 1) done input)
      (readMembers size dialect (fuel + 1) done input) := by
  unfold readMembers
  split
  case h_1 => exact agrees_error _ _
  case h_2 rest =>
    rcases readText size rest with e | ⟨key, left⟩
    · exact agrees_error _ _
    simp only
    split
    case h_1 => exact agrees_error _ _
    case h_2 rest _ =>
      rcases hread : readValue size .strict fuel rest with e | ⟨v, left⟩
      · exact agrees_error _ _
      obtain ⟨hother, hv⟩ := hat.value rest v left hread
      have hdone : ∀ m ∈ (key, v) :: done, m.2.Throughout IsStrict :=
        List.forall_mem_cons.mpr ⟨hv, hdone⟩
      simp only [hother]
      rcases skipSpace left with _ | ⟨b, rest⟩
      · exact agrees_error _ _
      simp only
      split
      · exact agrees_ok (throughout_obj_iff.mpr
          ⟨⟨Members.nodup_keys_ofReverse, trivial⟩, Members.forall_ofReverse hdone⟩) rest
      split
      · split
        · exact agrees_malformed _ _ _
        · exact hat.members _ _ hdone
      · exact agrees_malformed _ _ _
    case h_3 => exact agrees_malformed _ _ _
  case h_3 => exact agrees_malformed _ _ _

end AgreesAt

/-- What is read strictly is read alike, at any depth. -/
lemma agreesAt (size : ℕ) (dialect : Dialect) (fuel : ℕ) : AgreesAt size dialect fuel := by
  induction fuel with
  | zero => exact ⟨fun _ => agrees_error _ _, fun _ _ _ _ => agrees_error _ _,
      fun _ _ _ => agrees_error _ _⟩
  | succ fuel ih => exact ⟨ih.value_succ, ih.elements_succ, ih.members_succ⟩

end

/-- **Strict text means the same in every dialect**, and what it means can be written. -/
theorem read_agrees {input : List UInt8} {v : Value} (h : read .strict input = .ok v)
    (dialect : Dialect) : read dialect input = .ok v ∧ v.Throughout IsStrict := by
  rw [read] at h ⊢
  rcases hread : readValue input.length .strict (2 * input.length + 2) input with e | ⟨w, left⟩ <;>
    simp only [hread] at h
  · cases h
  obtain ⟨hother, hw⟩ := (agreesAt _ dialect _).value input w left hread
  simp only [hother]
  rcases hskip : skipSpace left with _ | ⟨b, rest⟩ <;> simp only [hskip] at h
  · obtain rfl : w = v := Except.ok.inj h
    exact ⟨rfl, hw⟩
  · cases h

end Json

end LivePage
