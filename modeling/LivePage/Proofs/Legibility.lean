/-
Reading the bytes of a text as JSON. Outside of quotes only bytes of ASCII are read, and
a quoted text begins and ends with one, so that what is left is a text exactly if there
was one before, and so is what stands inside quotes.

* `Json.Legible`: a result that leaves a text exactly of a text, and an error of another
  kind than bytes that are no text unless there are some;
* `Json.readContent_legible`, `Json.readsTexts`: quoted texts, and values;
* `Json.read_ne_illFormed`, `Json.isText_of_read`: a text is read, or it is no JSON, and
  what is read is a text.
-/
import LivePage.Json.Reader
import LivePage.Proofs.Encoding

namespace LivePage.Json

open Utf8 (Completes IsText Inner)

/-- A result that leaves a text exactly of a text, and an error of another kind than bytes that are
no text unless there are some. -/
def Legible {α : Type} (input : Rest) : Except Error (α × Rest) → Prop
  | .ok (_, rest) => IsText input ↔ IsText rest
  | .error e => IsText input → ∀ part, e ≠ .illFormed part

section

variable {α β : Type} {size : ℕ} {dialect : Dialect} {input rest : Rest} {b : UInt8}

lemma legible_truncated : Legible input (.error .truncated : Except Error (α × Rest)) :=
  fun _ => nofun

lemma legible_malformed (what : Complaint) (left : Rest) :
    Legible input (malformed size what left : Except Error (α × Rest)) :=
  fun _ => nofun

/-- What is read behind a beginning is legible if the beginning decides nothing. -/
lemma Legible.of_iff {r : Except Error (α × Rest)} (hr : Legible rest r)
    (hrest : IsText input ↔ IsText rest) : Legible input r := by
  rcases r with e | ⟨a, left⟩
  · exact fun hinput => hr (hrest.mp hinput)
  · exact hrest.trans hr

/-- The rest counts, not what was read before it. -/
lemma Legible.map {r : Except Error (α × Rest)} (hr : Legible input r) {f : α × Rest → β × Rest}
    (hf : ∀ x, (f x).2 = x.2) : Legible input (r.map f) := by
  rcases r with e | ⟨a, rest⟩
  · exact hr
  · have hrest : (f (a, rest)).2 = rest := hf (a, rest)
    have hmap : f (a, rest) = ((f (a, rest)).1, rest) := Prod.ext rfl hrest
    rw [Except.map, hmap]
    exact hr

/-! ### Bytes of ASCII -/

lemma ascii_of_isSpace (hb : isSpace b) : b < 0x80 := by
  simp only [isSpace, Bool.or_eq_true, beq_iff_eq] at hb
  rcases hb with ((rfl | rfl) | rfl) | rfl <;> decide

lemma ascii_of_le {high : UInt8} (hb : b ≤ high) (hhigh : high < 0x80) : b < 0x80 := by
  rw [UInt8.le_iff_toNat_le] at hb
  rw [UInt8.lt_iff_toNat_lt] at hhigh ⊢
  omega

lemma ascii_of_isDigit (hb : isDigit b) : b < 0x80 := by
  simp only [isDigit, Bool.and_eq_true, decide_eq_true_eq] at hb
  exact ascii_of_le hb.2 (by decide)

lemma ascii_of_hexDigit? {n : ℕ} (hb : hexDigit? b = some n) : b < 0x80 := by
  rw [hexDigit?] at hb
  split_ifs at hb with hdigit hupper hlower
  · exact ascii_of_isDigit hdigit
  · simp only [Bool.and_eq_true, decide_eq_true_eq] at hupper
    exact ascii_of_le hupper.2 (by decide)
  · simp only [Bool.and_eq_true, decide_eq_true_eq] at hlower
    exact ascii_of_le hlower.2 (by decide)

lemma ascii_of_char {c : Char} (hb : Char.ofNat b.toNat = c) (hc : c.toNat < 0x80) :
    b < 0x80 := by
  have hlt := b.toNat_lt
  have hvalid : b.toNat.isValidChar := .inl (by omega)
  have hchar : (Char.ofNat b.toNat).toNat = b.toNat := by
    rw [Char.ofNat, dif_pos hvalid]
    rfl
  rw [UInt8.lt_iff_toNat_lt, ← hchar, hb]
  exact hc

lemma ascii_of_simpleEscape? {stands : UInt8} (hb : simpleEscape? b = some stands) :
    b < 0x80 ∧ stands < 0x80 := by
  rw [simpleEscape?] at hb
  split at hb <;> cases hb <;> rename_i hc <;> exact ⟨ascii_of_char hc (by decide), by decide⟩

lemma isText_skipSpace_iff : IsText input ↔ IsText (skipSpace input) :=
  (Utf8.isText_dropWhile_iff fun _ => ascii_of_isSpace).symm

lemma isText_dropDigits_iff : IsText input ↔ IsText (input.dropWhile isDigit) :=
  (Utf8.isText_dropWhile_iff fun _ => ascii_of_isDigit).symm

/-! ### Quoted texts -/

lemma readHex_go_legible (count value : ℕ) (input : Rest) :
    Legible input (readHex.go size count value input) := by
  induction count generalizing value input with
  | zero => exact Iff.rfl
  | succ count ih =>
      rcases input with _ | ⟨b, rest⟩
      · exact legible_truncated
      · rw [readHex.go]
        split
        case h_1 d hd => exact (ih _ rest).of_iff (Utf8.isText_cons_iff (ascii_of_hexDigit? hd))
        case h_2 => exact legible_malformed _ _

lemma readHex_legible (input : Rest) : Legible input (readHex size input) := by
  rw [readHex]
  split
  · exact legible_truncated
  · exact readHex_go_legible 4 0 input

lemma readUnicodeEscape_legible (input : Rest) :
    Legible input (readUnicodeEscape size input) := by
  have hfirst : Legible input (readHex size input) := readHex_legible input
  rw [readUnicodeEscape]
  rcases hread : readHex size input with e | ⟨first, rest⟩ <;> rw [hread] at hfirst
  · exact hfirst
  · simp only
    split
    · exact legible_malformed _ _
    split
    · split
      · exact legible_truncated
      split
      case h_1 digits _ =>
        have hdigits : IsText (0x5C :: 0x75 :: digits) ↔ IsText digits := by
          rw [Utf8.isText_cons_iff (by decide), Utf8.isText_cons_iff (by decide)]
        have hsecond : Legible input (readHex size digits) :=
          (readHex_legible digits).of_iff (Iff.trans hfirst hdigits)
        rcases hread : readHex size digits with e | ⟨second, rest⟩ <;> rw [hread] at hsecond
        · exact hsecond
        · simp only
          have hrest : IsText input ↔ IsText rest := hsecond
          split
          · exact hrest
          · exact legible_malformed _ _
      case h_2 => exact legible_malformed _ _
    · exact hfirst

/-- Behind any bytes, what is written leaves the same character in progress as what is read, or
neither can go on. -/
def Carries (input written rest : List UInt8) : Prop :=
  ∀ st, Inner st →
    (∃ next, Inner next ∧ (Completes st input ↔ Completes next rest) ∧
      ∀ more, Completes st (written ++ more) ↔ Completes next more) ∨
    ¬Completes st input ∧ ∀ more, ¬Completes st (written ++ more)

lemma carries_byte (b : UInt8) (rest : Rest) : Carries (b :: rest) [b] rest := by
  intro st hst
  cases hstep : Utf8.step st b with
  | complete c => exact .inl ⟨none, Utf8.inner_none, by simp [Utf8.completes_cons_iff, hstep]⟩
  | incomplete next =>
      exact .inl ⟨some next, Utf8.inner_of_step hstep, by simp [Utf8.completes_cons_iff, hstep]⟩
  | refused => exact .inr (by simp [Utf8.completes_cons_iff, hstep])

/-- An escape of ASCII stands for whole characters. -/
lemma carries_whole {written : List UInt8}
    (hread : ∀ st, Inner st → (Completes st input ↔ st = none ∧ IsText rest))
    (hwritten : ∀ st, Inner st → ∀ more, Completes st (written ++ more) ↔ st = none ∧ IsText more) :
    Carries input written rest := by
  intro st hst
  rcases st with _ | p
  · refine .inl ⟨none, hst, ?_, fun more => ?_⟩
    · rw [hread none hst, and_iff_right rfl]
    · rw [hwritten none hst, and_iff_right rfl]
  · refine .inr ⟨?_, fun more => ?_⟩
    · rw [hread _ hst]
      exact fun h => nomatch h.1
    · rw [hwritten _ hst]
      exact fun h => nomatch h.1

/-- The content of a quoted text and what is left are texts exactly if there was one before. -/
def LegibleContent (done : List UInt8) (input : Rest) :
    Except Error (List UInt8 × Rest) → Prop
  | .ok (content, rest) => ∃ more, content = done.reverse ++ more ∧
      ∀ st, Inner st → (Completes st input ↔ Completes st more ∧ IsText rest)
  | .error e => ∀ st, Inner st → Completes st input → ∀ part, e ≠ .illFormed part

lemma LegibleContent.of_carries {r : Except Error (List UInt8 × Rest)} {done written : List UInt8}
    (hr : LegibleContent (written.reverse ++ done) rest r) (hcarries : Carries input written rest) :
    LegibleContent done input r := by
  rcases r with e | ⟨content, left⟩
  · intro st hst hinput
    rcases hcarries st hst with ⟨next, hnext, hread, -⟩ | ⟨hnone, -⟩
    · exact hr next hnext (hread.mp hinput)
    · exact absurd hinput hnone
  · obtain ⟨more, hcontent, hmore⟩ := hr
    refine ⟨written ++ more, by simp [hcontent], fun st hst => ?_⟩
    rcases hcarries st hst with ⟨next, hnext, hread, hwritten⟩ | ⟨hnone, hnever⟩
    · rw [hread, hwritten, hmore next hnext]
    · simp [hnone, hnever]

lemma readContent_legible (fuel : ℕ) (done : List UInt8) (input : Rest) :
    LegibleContent done input (readContent size fuel done input) := by
  induction fuel generalizing done input with
  | zero => exact fun _ _ _ => nofun
  | succ fuel ih =>
      rcases input with _ | ⟨b, rest⟩
      · exact fun _ _ _ => nofun
      simp only [readContent]
      split
      case isTrue hquote =>
        obtain rfl : b = 0x22 := by simpa using hquote
        refine ⟨[], (List.append_nil _).symm, fun st hst => ?_⟩
        rw [Utf8.completes_ascii_iff hst (by decide), Utf8.completes_nil_iff]
      case isFalse =>
        split
        case isTrue hescape =>
          obtain rfl : b = 0x5C := by simpa using hescape
          rcases rest with _ | ⟨e, rest⟩
          · exact fun _ _ _ => nofun
          have hread (he : e < 0x80) (st : Option Utf8.Pending) (hst : Inner st) :
              Completes st (0x5C :: e :: rest) ↔ st = none ∧ IsText rest := by
            rw [Utf8.completes_ascii_iff hst (by decide), Utf8.isText_cons_iff he]
          simp only
          split
          case isTrue hunicode =>
            obtain rfl : e = 0x75 := by simpa using hunicode
            have hescape : Legible rest (readUnicodeEscape size rest) :=
              readUnicodeEscape_legible rest
            rcases hescaped : readUnicodeEscape size rest with e | ⟨c, left⟩ <;>
              rw [hescaped] at hescape
            · exact fun st hst hinput => hescape ((hread (by decide) st hst).mp hinput).2
            · refine (ih _ left).of_carries (carries_whole (fun st hst => ?_) fun st hst more => ?_)
              · exact (hread (by decide) st hst).trans (and_congr_right fun _ => hescape)
              · exact Utf8.completes_char_iff hst c
          case isFalse =>
            split
            case h_1 stands hsimple =>
              obtain ⟨he, hstands⟩ := ascii_of_simpleEscape? hsimple
              have hcarries : Carries (0x5C :: e :: rest) [stands] rest :=
                carries_whole (hread he) fun st hst more => Utf8.completes_ascii_iff hst hstands
              exact (ih _ rest).of_carries hcarries
            case h_2 => exact fun _ _ _ => nofun
        case isFalse =>
          split
          · exact fun _ _ _ => nofun
          · have hnext : LegibleContent ([b].reverse ++ done) rest
                (readContent size fuel (b :: done) rest) := ih _ rest
            exact hnext.of_carries (carries_byte b rest)

/-- **A quoted text is decoded exactly of a text.** -/
lemma readText_legible (input : Rest) : Legible input (readText size input) := by
  have hcontent : LegibleContent [] input (readContent size (size + 1) [] input) :=
    readContent_legible (size + 1) [] input
  rw [readText]
  rcases hread : readContent size (size + 1) [] input with e | ⟨content, rest⟩ <;>
    rw [hread] at hcontent
  · exact hcontent none Utf8.inner_none
  · obtain ⟨_, rfl, hmore⟩ := hcontent
    have htext := hmore none Utf8.inner_none
    simp only
    rcases hdecode : Utf8.decode content with part | text
    · intro hinput
      obtain ⟨text, hok⟩ := Utf8.isText_iff.mp (htext.mp hinput).1
      rw [hdecode] at hok
      cases hok
    · exact htext.trans (and_iff_right (Utf8.isText_iff.mpr ⟨text, hdecode⟩))

/-! ### Numbers and words -/

lemma readDigits_legible (input : Rest) : Legible input (readDigits size input) := by
  rw [readDigits]
  split
  · exact legible_malformed _ _
  · exact isText_dropDigits_iff

lemma readWhole_legible (input : Rest) : Legible input (readWhole size input) := by
  rcases input with _ | ⟨b, rest⟩
  · exact legible_malformed _ _
  unfold readWhole
  by_cases hdigit : isDigit b
  · have hrest : IsText (b :: rest) ↔ IsText rest := Utf8.isText_cons_iff (ascii_of_isDigit hdigit)
    simp only [hdigit, Bool.not_true, Bool.false_eq_true, if_false]
    split
    · split
      · split
        · exact legible_malformed _ _
        · exact hrest
      · exact hrest
    · exact hrest.trans isText_dropDigits_iff
  · simp only [hdigit, Bool.not_false, if_true]
    exact legible_malformed _ _

lemma readFraction_legible (input : Rest) : Legible input (readFraction size input) := by
  unfold readFraction
  split
  · refine Legible.of_iff ?_ (Utf8.isText_cons_iff (by decide))
    exact (readDigits_legible _).map fun _ => rfl
  · exact Iff.rfl

lemma readExponent_legible (input : Rest) : Legible input (readExponent size input) := by
  unfold readExponent
  rcases input with _ | ⟨b, rest⟩
  · exact Iff.rfl
  simp only
  split
  case isTrue hmark =>
    have hmark : b = 0x65 ∨ b = 0x45 := by simpa using hmark
    have hrest : IsText (b :: rest) ↔ IsText rest :=
      Utf8.isText_cons_iff (by rcases hmark with rfl | rfl <;> decide)
    refine Legible.of_iff ?_ hrest
    split
    · refine Legible.of_iff ?_ (Utf8.isText_cons_iff (by decide))
      exact (readDigits_legible _).map fun _ => rfl
    · refine Legible.of_iff ?_ (Utf8.isText_cons_iff (by decide))
      exact (readDigits_legible _).map fun _ => rfl
    · exact (readDigits_legible _).map fun _ => rfl
  case isFalse => exact Iff.rfl

lemma number_ne_illFormed {negative : Bool} {whole : List UInt8} {fraction : Option (List UInt8)}
    {exponent : Option ℤ} (part : Utf8.Malformed) :
    number dialect negative whole fraction exponent ≠ .error (.illFormed part) := by
  simp only [number]
  split_ifs <;> simp

lemma readNumber_legible (negative : Bool) (input : Rest) :
    Legible input (readNumber size dialect negative input) := by
  have hwhole : Legible input (readWhole size input) := readWhole_legible input
  rw [readNumber]
  rcases hread : readWhole size input with e | ⟨whole, rest⟩ <;> rw [hread] at hwhole
  · exact hwhole
  refine Legible.of_iff ?_ hwhole
  have hfraction : Legible rest (readFraction size rest) := readFraction_legible rest
  simp only
  rcases hread : readFraction size rest with e | ⟨fraction, rest⟩ <;> rw [hread] at hfraction
  · exact hfraction
  refine Legible.of_iff ?_ hfraction
  have hexponent : Legible rest (readExponent size rest) := readExponent_legible rest
  simp only
  rcases hread : readExponent size rest with e | ⟨exponent, rest⟩ <;> rw [hread] at hexponent
  · exact hexponent
  refine Legible.of_iff ?_ hexponent
  simp only
  rcases hnumber : number dialect negative whole fraction exponent with e | v
  · rintro - part rfl
    exact number_ne_illFormed part hnumber
  · exact Iff.rfl

lemma readWord_legible {letters : List Char} (hletters : letters.all fun c => code c < 0x80)
    (v : Value) (input : Rest) : Legible input (readWord size letters v input) := by
  have hascii : ∀ b ∈ letters.map code, b < 0x80 := by simpa using hletters
  rw [readWord]
  split
  case isTrue hword =>
    rw [beq_iff_eq] at hword
    have hinput : input = letters.map code ++ input.drop letters.length := by
      rw [← hword, List.take_append_drop]
    have hrest : IsText (letters.map code ++ input.drop letters.length) ↔
        IsText (input.drop letters.length) := Utf8.isText_append_iff hascii
    rwa [← hinput] at hrest
  case isFalse =>
    split
    · exact legible_truncated
    · exact legible_malformed _ _

lemma readPlain_legible (input : Rest) : Legible input (readPlain size dialect input) := by
  rcases input with _ | ⟨b, rest⟩
  · exact legible_truncated
  have hrest {c : Char} (hc : Char.ofNat b.toNat = c) (hascii : c.toNat < 0x80) :
      IsText (b :: rest) ↔ IsText rest := Utf8.isText_cons_iff (ascii_of_char hc hascii)
  unfold readPlain
  simp only
  split
  case h_1 hc => exact (readWord_legible (by decide) _ rest).of_iff (hrest hc (by decide))
  case h_2 hc => exact (readWord_legible (by decide) _ rest).of_iff (hrest hc (by decide))
  case h_3 hc => exact (readWord_legible (by decide) _ rest).of_iff (hrest hc (by decide))
  case h_4 hc =>
    exact Legible.of_iff ((readText_legible rest).map fun _ => rfl) (hrest hc (by decide))
  case h_5 hc =>
    split
    · exact (readWord_legible (by decide) _ rest).of_iff (hrest hc (by decide))
    · exact legible_malformed _ _
  case h_6 hc =>
    split
    · exact (readWord_legible (by decide) _ rest).of_iff (hrest hc (by decide))
    · exact legible_malformed _ _
  case h_7 hc =>
    refine Legible.of_iff ?_ (hrest hc (by decide))
    split
    · exact (readWord_legible (by decide) _ _).of_iff (Utf8.isText_cons_iff (by decide))
    · exact readNumber_legible true _
  case h_8 =>
    split
    · exact readNumber_legible false _
    · exact legible_malformed _ _

/-! ### Containers -/

lemma Legible.within {e : Error} (he : Legible input (.error e : Except Error (α × Rest)))
    (step : Step) : Legible input (.error (e.within step) : Except Error (β × Rest)) := by
  intro hinput part
  have hpart := he hinput part
  cases e <;> simp_all [Error.within]

/-- What is read with some fuel is legible. -/
structure ReadsTexts (size : ℕ) (dialect : Dialect) (fuel : ℕ) : Prop where
  value : ∀ input, Legible input (readValue size dialect fuel input)
  elements : ∀ index done input, Legible input (readElements size dialect fuel index done input)
  members : ∀ done input, Legible input (readMembers size dialect fuel done input)

/-- Behind a byte of ASCII there may be space. -/
lemma isText_cons_skipSpace_iff (hb : b < 0x80) :
    IsText (b :: rest) ↔ IsText (skipSpace rest) :=
  (Utf8.isText_cons_iff hb).trans isText_skipSpace_iff

namespace ReadsTexts

variable {fuel : ℕ}

lemma value_succ (hreads : ReadsTexts size dialect fuel) (input : Rest) :
    Legible input (readValue size dialect (fuel + 1) input) := by
  refine Legible.of_iff ?_ isText_skipSpace_iff
  unfold readValue
  split
  case h_1 rest hrest =>
    rw [hrest]
    refine Legible.of_iff ?_ (isText_cons_skipSpace_iff (by decide))
    split
    · exact legible_truncated
    case h_2 rest hrest =>
      rw [hrest]
      exact Utf8.isText_cons_iff (by decide)
    · exact hreads.elements _ _ _
  case h_2 rest hrest =>
    rw [hrest]
    refine Legible.of_iff ?_ (isText_cons_skipSpace_iff (by decide))
    split
    · exact legible_truncated
    case h_2 rest hrest =>
      rw [hrest]
      exact Utf8.isText_cons_iff (by decide)
    · exact hreads.members _ _
  case h_3 => exact readPlain_legible _

lemma elements_succ (hreads : ReadsTexts size dialect fuel) (index : ℕ) (done : List Value)
    (input : Rest) : Legible input (readElements size dialect (fuel + 1) index done input) := by
  have hvalue := hreads.value input
  rw [readElements]
  rcases hread : readValue size dialect fuel input with e | ⟨v, rest⟩ <;> rw [hread] at hvalue
  · exact hvalue.within _
  refine Legible.of_iff ?_ (Iff.trans hvalue isText_skipSpace_iff)
  simp only
  rcases skipSpace rest with _ | ⟨b, rest⟩
  · exact legible_truncated
  simp only
  split
  case isTrue hb =>
    obtain rfl : b = 0x5D := by simpa using hb
    exact Utf8.isText_cons_iff (by decide)
  case isFalse =>
    split
    case isTrue hb =>
      obtain rfl : b = 0x2C := by simpa using hb
      refine Legible.of_iff ?_ (isText_cons_skipSpace_iff (by decide))
      split
      · exact legible_malformed _ _
      · exact hreads.elements _ _ _
    case isFalse => exact legible_malformed _ _

lemma members_succ (hreads : ReadsTexts size dialect fuel) (done : Members Value) (input : Rest) :
    Legible input (readMembers size dialect (fuel + 1) done input) := by
  unfold readMembers
  split
  case h_1 => exact legible_truncated
  case h_2 rest =>
    refine Legible.of_iff ?_ (Utf8.isText_cons_iff (by decide))
    have hkey : Legible rest (readText size rest) := readText_legible rest
    rcases hread : readText size rest with e | ⟨key, rest⟩ <;> rw [hread] at hkey
    · exact hkey
    refine Legible.of_iff ?_ (Iff.trans hkey isText_skipSpace_iff)
    simp only
    split
    case h_1 => exact legible_truncated
    case h_2 rest hrest =>
      rw [hrest]
      refine Legible.of_iff ?_ (Utf8.isText_cons_iff (by decide))
      have hvalue := hreads.value rest
      rcases hread : readValue size dialect fuel rest with e | ⟨v, rest⟩ <;> rw [hread] at hvalue
      · exact hvalue.within _
      refine Legible.of_iff ?_ (Iff.trans hvalue isText_skipSpace_iff)
      simp only
      rcases skipSpace rest with _ | ⟨b, rest⟩
      · exact legible_truncated
      simp only
      split
      case isTrue hb =>
        obtain rfl : b = 0x7D := by simpa using hb
        exact Utf8.isText_cons_iff (by decide)
      case isFalse =>
        split
        case isTrue hb =>
          obtain rfl : b = 0x2C := by simpa using hb
          refine Legible.of_iff ?_ (isText_cons_skipSpace_iff (by decide))
          split
          · exact legible_malformed _ _
          · exact hreads.members _ _
        case isFalse => exact legible_malformed _ _
    case h_3 => exact legible_malformed _ _
  case h_3 => exact legible_malformed _ _

end ReadsTexts

/-- What is read is legible, at any depth. -/
lemma readsTexts (fuel : ℕ) : ReadsTexts size dialect fuel := by
  induction fuel with
  | zero => exact ⟨fun _ => legible_truncated, fun _ _ _ => legible_truncated,
      fun _ _ => legible_truncated⟩
  | succ fuel ih => exact ⟨ih.value_succ, ih.elements_succ, ih.members_succ⟩

end

variable {input : List UInt8}

lemma readValue_legible (input : List UInt8) (dialect : Dialect) (fuel : ℕ) :
    Legible input (readValue input.length dialect fuel input) :=
  (readsTexts fuel).value input

/-- **A text is read, or it is no JSON.** Reading it never ends at bytes that are no text. -/
theorem read_ne_illFormed (h : IsText input) (dialect : Dialect) (part : Utf8.Malformed) :
    read dialect input ≠ .error (.illFormed part) := by
  have hvalue := readValue_legible input dialect (2 * input.length + 2)
  rw [read]
  rcases hread : readValue input.length dialect (2 * input.length + 2) input with e | ⟨v, rest⟩ <;>
    rw [hread] at hvalue
  · exact fun he => hvalue h part (Except.error.inj he)
  · simp only
    split <;> simp [malformed]

/-- **What is read is a text.** -/
theorem isText_of_read {dialect : Dialect} {v : Value} (h : read dialect input = .ok v) :
    IsText input := by
  have hvalue := readValue_legible input dialect (2 * input.length + 2)
  rw [read] at h
  rcases hread : readValue input.length dialect (2 * input.length + 2) input with e | ⟨v, rest⟩ <;>
    rw [hread] at h hvalue
  · cases h
  rcases hskip : skipSpace rest with _ | ⟨b, left⟩ <;> simp only [hskip] at h
  · have hrest : IsText (skipSpace rest) := hskip ▸ Utf8.completes_nil_iff.mpr rfl
    exact Iff.mpr hvalue (isText_skipSpace_iff.mpr hrest)
  · cases h

end LivePage.Json
