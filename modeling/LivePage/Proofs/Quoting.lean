/-
A text in quotes is read back, whatever stands behind it. What is written for a
character is read as the bytes of that character.

* `Utf8.bytes`: the bytes of a list of characters;
* `Json.readsChar_escapeChar`: one character, by the cases of its escape;
* `Json.readText_quote`: whole texts.
-/
import LivePage.Json.Reader
import LivePage.Json.Writer
import LivePage.Proofs.Encoding

namespace LivePage

namespace Utf8

/-! ### Bytes of characters -/

/-- The bytes of some characters. -/
def bytes (cs : List Char) : List UInt8 := cs.flatMap String.utf8EncodeChar

lemma encode_ofList (cs : List Char) : encode (String.ofList cs) = bytes cs := by
  rw [encode, String.toList_ofList, bytes]

@[simp]
lemma bytes_nil : bytes [] = [] := rfl

lemma bytes_cons (c : Char) (cs : List Char) :
    bytes (c :: cs) = String.utf8EncodeChar c ++ bytes cs :=
  List.flatMap_cons

@[simp]
lemma bytes_append (cs ds : List Char) : bytes (cs ++ ds) = bytes cs ++ bytes ds :=
  List.flatMap_append

/-- The bytes of a character beyond ASCII are all beyond ASCII. -/
lemma le_of_mem_encodeChar {c : Char} {b : UInt8} (hc : 0x80 ≤ c.toNat)
    (hb : b ∈ String.utf8EncodeChar c) : 0x80 ≤ b := by
  have hone : ¬c.val.toNat ≤ 127 := by
    change ¬c.toNat ≤ 127
    omega
  have hmin : (0x80 : UInt8).toNat = 128 := rfl
  have htail (n : ℕ) (hn : n < 128) : 0x80 ≤ UInt8.ofNat (n + 128) := by
    rw [UInt8.le_iff_toNat_le, UInt8.toNat_ofNat_of_lt' (by rw [UInt8.size]; omega), hmin]
    omega
  simp only [String.utf8EncodeChar, if_neg hone] at hb
  split_ifs at hb <;> simp only [List.mem_cons, List.not_mem_nil, or_false] at hb
  · rcases hb with rfl | rfl
    · exact htail (c.val.toNat / 64 % 32 + 64) (by omega)
    · exact htail _ (by omega)
  · rcases hb with rfl | rfl | rfl
    · exact htail (c.val.toNat / 4096 % 16 + 96) (by omega)
    all_goals exact htail _ (by omega)
  · rcases hb with rfl | rfl | rfl | rfl
    · exact htail (c.val.toNat / 262144 % 8 + 112) (by omega)
    all_goals exact htail _ (by omega)

end Utf8

namespace Json

open Utf8

/-- A character of ASCII is one byte. -/
lemma bytes_ascii {c : Char} (hc : c.toNat < 0x80) (cs : List Char) :
    bytes (c :: cs) = code c :: bytes cs := by
  have hone : c.val.toNat ≤ 127 := Nat.le_of_lt_succ hc
  rw [bytes_cons, String.utf8EncodeChar, if_pos hone]
  rfl

lemma bytes_eq_map_code {cs : List Char} (hcs : ∀ c ∈ cs, c.toNat < 0x80) :
    bytes cs = cs.map code := by
  induction cs with
  | nil => rfl
  | cons c cs ih =>
      obtain ⟨hc, hcs⟩ := List.forall_mem_cons.mp hcs
      rw [bytes_ascii hc, ih hcs, List.map_cons]

/-! ### Characters -/

section

variable {size fuel : ℕ} {done rest : List UInt8} {b : UInt8} {c : Char}

/-- A byte that neither ends a text nor begins an escape, and is no control character. -/
def IsRaw (b : UInt8) : Prop := b ≠ 0x22 ∧ b ≠ 0x5C ∧ 0x20 ≤ b

lemma readContent_raw (hb : IsRaw b) :
    readContent size (fuel + 1) done (b :: rest) = readContent size fuel (b :: done) rest := by
  obtain ⟨hquote, hslash, hcontrol⟩ := hb
  simp [readContent, hquote, hslash, UInt8.not_lt.mpr hcontrol]

lemma readContent_rawBytes {raw : List UInt8} (hraw : ∀ b ∈ raw, IsRaw b) :
    readContent size (raw.length + fuel) done (raw ++ rest) =
      readContent size fuel (raw.reverse ++ done) rest := by
  induction raw generalizing done with
  | nil => rw [List.length_nil, Nat.zero_add, List.nil_append, List.reverse_nil, List.nil_append]
  | cons b raw ih =>
      obtain ⟨hb, hraw⟩ := List.forall_mem_cons.mp hraw
      rw [List.length_cons, Nat.add_right_comm, List.cons_append, readContent_raw hb, ih hraw,
        List.reverse_cons, List.append_assoc, List.singleton_append]

/-- A character that needs no escape is written as it is. -/
lemma isRaw_of_mem_encodeChar (hquote : c ≠ '"') (hslash : c ≠ '\\') (hcontrol : 0x20 ≤ c.toNat)
    (hb : b ∈ String.utf8EncodeChar c) : IsRaw b := by
  have hmin : (0x80 : UInt8).toNat = 128 := rfl
  by_cases hc : c.toNat < 0x80
  · have hbytes : String.utf8EncodeChar c = [code c] := by
      rw [← List.append_nil (String.utf8EncodeChar c), ← bytes_nil, ← bytes_cons, bytes_ascii hc,
        bytes_nil]
    rw [hbytes, List.mem_singleton] at hb
    have hcode : b.toNat = c.toNat := by
      rw [hb, code]
      exact UInt8.toNat_ofNat_of_lt' (by rw [UInt8.size]; omega)
    have hne {d : Char} (hd : c ≠ d) : b.toNat ≠ d.toNat := fun h =>
      hd (Char.toNat_inj.mp (hcode ▸ h))
    refine ⟨fun h => hne hquote (by rw [h]; rfl), fun h => hne hslash (by rw [h]; rfl), ?_⟩
    rw [UInt8.le_iff_toNat_le, hcode]
    exact hcontrol
  · have hle : 128 ≤ b.toNat := by
      rw [← hmin, ← UInt8.le_iff_toNat_le]
      exact le_of_mem_encodeChar (not_lt.mp hc) hb
    refine ⟨?_, ?_, ?_⟩
    · rintro rfl
      exact absurd hle (by decide)
    · rintro rfl
      exact absurd hle (by decide)
    · rw [UInt8.le_iff_toNat_le]
      exact le_trans (by decide) hle

/-- The reader takes one character from what is written for it, and as many steps as it has
bytes at most. -/
def ReadsChar (c : Char) (written : List UInt8) : Prop :=
  ∃ steps ≤ written.length, ∀ size fuel done rest,
    readContent size (steps + fuel) done (written ++ rest) =
      readContent size fuel ((String.utf8EncodeChar c).reverse ++ done) rest

lemma readsChar_raw (hquote : c ≠ '"') (hslash : c ≠ '\\') (hcontrol : 0x20 ≤ c.toNat) :
    ReadsChar c (String.utf8EncodeChar c) :=
  ⟨_, le_rfl, fun _ _ _ _ =>
    readContent_rawBytes fun _ => isRaw_of_mem_encodeChar hquote hslash hcontrol⟩

/-- A letter behind a backslash. -/
lemma readsChar_simple {letter : Char} (hascii : letter.toNat < 0x80) (hletter : code letter ≠ 0x75)
    (hescape : (simpleEscape? (code letter)).map ([·]) = some (String.utf8EncodeChar c)) :
    ReadsChar c (bytes ['\\', letter]) := by
  obtain ⟨b, hb, hc⟩ := Option.map_eq_some_iff.mp hescape
  rw [bytes_ascii (by decide), bytes_ascii hascii, bytes_nil]
  refine ⟨1, by simp, fun size fuel done rest => ?_⟩
  have hslash : code '\\' = 0x5C := rfl
  rw [Nat.add_comm, ← hc, hslash]
  generalize code letter = e at *
  simp [readContent, hletter, hb]

/-- Four hexadecimal digits behind a backslash, for a control character. -/
lemma readsChar_control (hc : c.toNat < 0x20) :
    ReadsChar c (bytes ['\\', 'u', '0', '0', Nat.digitChar (c.toNat / 16),
      Nat.digitChar (c.toNat % 16)]) := by
  refine ⟨1, ?_, fun size fuel done rest => ?_⟩
  · rw [bytes_cons]
    simp [String.utf8EncodeChar]
  · have hchar : c = Char.ofNat c.toNat := (Char.ofNat_toNat c).symm
    generalize c.toNat = n at *
    subst hchar
    rw [Nat.add_comm]
    interval_cases n <;> rfl

/-- **What is written for a character is read as that character.** -/
lemma readsChar_escapeChar (c : Char) : ReadsChar c (bytes (escapeChar c)) := by
  unfold escapeChar
  split
  case h_8 hquote hslash _ _ _ _ _ =>
    split
    case isTrue hcontrol => exact readsChar_control hcontrol
    case isFalse hcontrol =>
      rw [bytes_cons, bytes_nil, List.append_nil]
      exact readsChar_raw hquote hslash (not_lt.mp hcontrol)
  all_goals exact readsChar_simple (by decide) (by decide) (by decide)

/-! ### Texts -/

/-- The content of a text is read up to the closing quote. -/
lemma readContent_escaped (cs : List Char) (hfuel : (bytes (cs.flatMap escapeChar)).length < fuel) :
    readContent size fuel done (bytes (cs.flatMap escapeChar) ++ 0x22 :: rest) =
      .ok (done.reverse ++ bytes cs, rest) := by
  induction cs generalizing fuel done with
  | nil =>
      obtain ⟨fuel, rfl⟩ := Nat.exists_eq_succ_of_ne_zero (Nat.ne_of_gt hfuel)
      simp [readContent]
  | cons c cs ih =>
      obtain ⟨steps, hsteps, hread⟩ := readsChar_escapeChar c
      rw [List.flatMap_cons, bytes_append, List.length_append] at hfuel
      obtain ⟨left, rfl⟩ := Nat.exists_eq_add_of_le (show steps ≤ fuel by omega)
      rw [List.flatMap_cons, bytes_append, List.append_assoc, hread, ih (by omega),
        List.reverse_append, List.reverse_reverse, List.append_assoc, bytes_cons]

/-- **A quoted text is read back**, behind its opening quote, if the input is as long as it. -/
theorem readText_quote (s : String) (hsize : (bytes (s.toList.flatMap escapeChar)).length ≤ size) :
    readText size (bytes (s.toList.flatMap escapeChar) ++ 0x22 :: rest) = .ok (s, rest) := by
  rw [readText, readContent_escaped s.toList (Nat.lt_succ_of_le hsize), List.reverse_nil,
    List.nil_append]
  have hdecode : Utf8.decode (bytes s.toList) = .ok s := Utf8.decode_encode s
  simp only [hdecode]

end

end Json

end LivePage
