/-
JSON texts are read as what they spell, whatever blanks stand between their
tokens.

* `Json.Rereads`: a text is read as a value, whatever stands behind it;
* `Json.RereadsItems`, `Json.RereadsMembers`: the elements of an array and the
  members of an object, with their blanks and their closing brackets;
* `Json.rereads_arr`, `Json.rereads_obj`: arrays and objects, from what they
  hold;
* `Json.read_of_rereads`: whole inputs.
-/
import LivePage.Proofs.Inputs
import LivePage.Proofs.Numerals
import Mathlib.Data.List.DropRight

namespace LivePage

/-! ### Names that are not repeated -/

namespace Members

variable {α : Type} {ms others : Members α} {key : String}

lemma put_of_notMem {a : α} (hkey : key ∉ ms.keys) : ms.put key a = ms ++ [(key, a)] := by
  induction ms with
  | nil => rfl
  | cons m rest ih =>
      obtain ⟨k, b⟩ := m
      obtain ⟨hne, hrest⟩ : key ≠ k ∧ key ∉ keys rest := by simpa [keys] using hkey
      rw [put, if_neg (by simpa using hne), ih hrest, List.cons_append]

/-- Names that are set once each stay in the order in which they are set. -/
lemma putAll_of_nodup (hnodup : (keys (ms ++ others)).Nodup) : ms.putAll others = ms ++ others := by
  induction others generalizing ms with
  | nil => rw [List.append_nil, putAll, List.foldl_nil]
  | cons m rest ih =>
      have hkey : m.1 ∉ ms.keys := by
        intro hkey
        rw [keys, List.map_append, List.nodup_append] at hnodup
        exact hnodup.2.2 _ hkey _ (by simp) rfl
      rw [putAll_cons, put_of_notMem hkey, ih (by simpa using hnodup), List.append_assoc,
        List.singleton_append]

lemma ofReverse_reverse (hnodup : ms.keys.Nodup) : ofReverse ms.reverse = ms := by
  rw [ofReverse, List.reverse_reverse, putAll_of_nodup (by simpa using hnodup), List.nil_append]

end Members

namespace Json

open Utf8

/-! ### Blanks -/

/-- The blanks between two tokens. -/
def IsBlank (cs : List Char) : Prop := ∀ c ∈ cs, c ∈ [' ', '\n', '\r', '\t']

section

variable {dialect : Dialect} {size fuel : ℕ} {blank cs : List Char} {input rest : List UInt8}
  {b : UInt8}

lemma isBlank_nil : IsBlank [] := by simp [IsBlank]

lemma isSpace_of_isBlank (hblank : IsBlank blank) : ∀ b ∈ bytes blank, isSpace b := by
  have hascii : ∀ c ∈ blank, c.toNat < 0x80 := by
    intro c hc
    have hc := hblank c hc
    fin_cases hc <;> decide
  rw [bytes_eq_map_code hascii]
  refine List.forall_mem_map.mpr fun c hc => ?_
  have hc := hblank c hc
  fin_cases hc <;> rfl

lemma skipSpace_blank (hblank : IsBlank blank) : skipSpace (bytes blank ++ rest) = skipSpace rest :=
  List.dropWhile_append_of_pos (isSpace_of_isBlank hblank)

lemma skipSpace_of_not_isSpace (hb : isSpace b = false) : skipSpace (b :: rest) = b :: rest := by
  simp [skipSpace, hb]

lemma skipSpace_skipSpace : skipSpace (skipSpace input) = skipSpace input :=
  List.dropWhile_idempotent _ _

/-- Blanks end a numeral, and so does what may stand behind them. -/
lemma ends_blank (hblank : IsBlank blank) (hrest : Ends rest) : Ends (bytes blank ++ rest) := by
  rcases hbytes : bytes blank with _ | ⟨b, tail⟩
  · exact hrest
  · have hb : isSpace b := isSpace_of_isBlank hblank b (hbytes ▸ List.mem_cons_self)
    rintro _ ⟨⟩
    simp only [isSpace, Bool.or_eq_true, beq_iff_eq] at hb
    rcases hb with ((rfl | rfl) | rfl) | rfl <;> decide

/-- A value is read behind any blanks. -/
lemma readValue_skipSpace (hskip : skipSpace input = skipSpace rest) :
    readValue size dialect fuel input = readValue size dialect fuel rest := by
  cases fuel with
  | zero => simp only [readValue]
  | succ fuel => simp only [readValue, hskip]

/-- No value begins with a closing bracket, or not at all. -/
lemma readValue_bracket (hinput : ∀ b ∈ (skipSpace input).head?, b = 0x5D) (v : Value) :
    readValue size dialect fuel input ≠ .ok (v, rest) := by
  cases fuel with
  | zero => simp [readValue]
  | succ fuel =>
      rcases hskip : skipSpace input with _ | ⟨b, tail⟩
      · simp [readValue, hskip, readPlain]
      · obtain rfl : b = 0x5D := hinput b (by rw [hskip]; rfl)
        simp only [readValue, hskip]
        rintro ⟨⟩

/-- A value that begins neither with a blank nor with an opening bracket is a plain one. -/
lemma readValue_plain (hspace : isSpace b = false) (harr : b ≠ 0x5B) (hobj : b ≠ 0x7B) :
    readValue size dialect (fuel + 1) (b :: rest) = readPlain size dialect (b :: rest) := by
  simp [readValue, skipSpace_of_not_isSpace hspace, harr, hobj]

end

/-! ### Texts of values -/

/-- A text is read as a value, whatever ends it, if the input is as long as was counted and there
are two steps for each of its bytes. -/
def Rereads (dialect : Dialect) (v : Value) (cs : List Char) : Prop :=
  ∀ size fuel rest, Ends rest → (bytes cs ++ rest).length ≤ size →
    2 * (bytes cs ++ rest).length ≤ fuel →
    readValue size dialect fuel (bytes cs ++ rest) = .ok (v, rest)

/-- Elements, each behind its blanks, up to the closing bracket. -/
inductive RereadsItems (dialect : Dialect) : List Value → List Char → Prop
  | last {v : Value} {before cs after : List Char} (hbefore : IsBlank before)
      (hv : Rereads dialect v cs) (hafter : IsBlank after) :
      RereadsItems dialect [v] (before ++ (cs ++ (after ++ [']'])))
  | cons {v : Value} {others : List Value} {before cs after ds : List Char}
      (hbefore : IsBlank before) (hv : Rereads dialect v cs) (hafter : IsBlank after)
      (hothers : RereadsItems dialect others ds) :
      RereadsItems dialect (v :: others) (before ++ (cs ++ (after ++ ',' :: ds)))

/-- Members, each behind its blanks, up to the closing brace. -/
inductive RereadsMembers (dialect : Dialect) : Members Value → List Char → Prop
  | last {key : String} {v : Value} {before colon cs after : List Char} (hbefore : IsBlank before)
      (hcolon : IsBlank colon) (hv : Rereads dialect v cs) (hafter : IsBlank after) :
      RereadsMembers dialect [(key, v)]
        (before ++ (quote key ++ ':' :: (colon ++ (cs ++ (after ++ ['\x7d'])))))
  | cons {key : String} {v : Value} {others : Members Value} {before colon cs after ds : List Char}
      (hbefore : IsBlank before) (hcolon : IsBlank colon) (hv : Rereads dialect v cs)
      (hafter : IsBlank after) (hothers : RereadsMembers dialect others ds) :
      RereadsMembers dialect ((key, v) :: others)
        (before ++ (quote key ++ ':' :: (colon ++ (cs ++ (after ++ ',' :: ds)))))

section

variable {dialect : Dialect} {size fuel index : ℕ} {cs : List Char} {rest : List UInt8} {v : Value}
  {items done : List Value} {members : Members Value}

/-! ### Plain values -/

/-- A plain value is read like a value if its text begins like neither a container nor a blank. -/
lemma rereads_plain {b : UInt8} {tail : List UInt8} (hbytes : bytes cs = b :: tail)
    (hspace : isSpace b = false) (harr : b ≠ 0x5B) (hobj : b ≠ 0x7B)
    (hread : ∀ size rest, Ends rest → (bytes cs ++ rest).length ≤ size →
      readPlain size dialect (bytes cs ++ rest) = .ok (v, rest)) : Rereads dialect v cs := by
  intro size fuel rest hrest hsize hfuel
  have hread := hread size rest hrest hsize
  rw [hbytes, List.cons_append] at hfuel hread ⊢
  obtain ⟨fuel, rfl⟩ := Nat.exists_eq_succ_of_ne_zero (n := fuel) (by simp at hfuel; omega)
  rw [readValue_plain hspace harr hobj, hread]

/-- A numeral begins with a sign or a digit. -/
lemma exists_bytes_numeral (m : Numeral) : ∃ b tail, bytes m.chars = b :: tail ∧
    isSpace b = false ∧ b ≠ 0x5B ∧ b ≠ 0x7B ∧ b ≠ 0x5D := by
  rw [Numeral.chars, Numeral.unsigned]
  obtain ⟨c, digits, hds⟩ := List.exists_cons_of_ne_nil m.whole.ne_nil
  have hc : c.isDigit := m.whole.isDigit c (hds ▸ List.mem_cons_self)
  have hdigit := isDigit_code hc
  cases m.negative
  · rw [if_neg Bool.false_ne_true, hds, List.cons_append, bytes_ascii (ascii_of_isDigitChar hc)]
    refine ⟨_, _, rfl, ?_, ?_, ?_, ?_⟩
    · by_contra hspace
      simp only [Bool.not_eq_false, isSpace, Bool.or_eq_true, beq_iff_eq] at hspace
      rcases hspace with ((hspace | hspace) | hspace) | hspace <;> rw [hspace] at hdigit <;>
        exact absurd hdigit (by decide)
    all_goals
      intro hcode
      rw [hcode] at hdigit
      exact absurd hdigit (by decide)
  · rw [if_pos rfl, bytes_ascii (by decide)]
    exact ⟨_, _, rfl, by decide, by decide, by decide, by decide⟩

lemma rereads_numeral {m : Numeral} (hvalue : m.value dialect = .ok v) :
    Rereads dialect v m.chars := by
  obtain ⟨b, tail, hbytes, hspace, harr, hobj, -⟩ := exists_bytes_numeral m
  refine rereads_plain hbytes hspace harr hobj fun size rest hrest _ => ?_
  rw [readPlain_numeral m hrest, hvalue]
  rfl

/-- A numeral that spells nothing is refused for that reason. -/
lemma read_numeral_eq_error {m : Numeral} {e : Error} (hvalue : m.value dialect = .error e) :
    read dialect (bytes m.chars) = .error e := by
  obtain ⟨b, tail, hbytes, hspace, harr, hobj, -⟩ := exists_bytes_numeral m
  have hplain : readPlain (bytes m.chars).length dialect (bytes m.chars) = .error e := by
    have hread : readPlain (bytes m.chars).length dialect (bytes m.chars ++ []) =
        (m.value dialect).map fun v => (v, []) := readPlain_numeral m nofun
    rwa [List.append_nil, hvalue] at hread
  rw [hbytes] at hplain ⊢
  simp only [read, readValue_plain hspace harr hobj, hplain]

lemma bytes_quote (s : String) :
    bytes (quote s) = 0x22 :: (bytes (s.toList.flatMap escapeChar) ++ [0x22]) := by
  rw [quote, List.cons_append, bytes_ascii (by decide), bytes_append, bytes_ascii (by decide)]
  rfl

lemma rereads_quote (s : String) : Rereads dialect (.str s) (quote s) := by
  refine rereads_plain (bytes_quote s) (by decide) (by decide) (by decide)
    fun size rest _ hsize => ?_
  rw [bytes_quote, List.cons_append, List.append_assoc] at hsize ⊢
  have hlength : (bytes (s.toList.flatMap escapeChar)).length ≤ size := by
    simp only [List.length_cons, List.length_append] at hsize
    omega
  change (readText size (bytes (s.toList.flatMap escapeChar) ++ 0x22 :: rest)).map _ = _
  rw [readText_quote s hlength]
  rfl

lemma rereads_null : Rereads dialect .null ['n', 'u', 'l', 'l'] :=
  rereads_plain (show bytes ['n', 'u', 'l', 'l'] = 0x6E :: [0x75, 0x6C, 0x6C] from rfl)
    (by decide) (by decide) (by decide) fun _ _ _ _ => rfl

lemma rereads_true : Rereads dialect (.bool true) ['t', 'r', 'u', 'e'] :=
  rereads_plain (show bytes ['t', 'r', 'u', 'e'] = 0x74 :: [0x72, 0x75, 0x65] from rfl)
    (by decide) (by decide) (by decide) fun _ _ _ _ => rfl

lemma rereads_false : Rereads dialect (.bool false) ['f', 'a', 'l', 's', 'e'] :=
  rereads_plain (show bytes ['f', 'a', 'l', 's', 'e'] = 0x66 :: [0x61, 0x6C, 0x73, 0x65] from rfl)
    (by decide) (by decide) (by decide) fun _ _ _ _ => rfl

lemma rereads_nan : Rereads .wide (.num (.nan 0)) ['N', 'a', 'N'] :=
  rereads_plain (show bytes ['N', 'a', 'N'] = 0x4E :: [0x61, 0x4E] from rfl)
    (by decide) (by decide) (by decide) fun _ _ _ _ => rfl

lemma rereads_infinity : Rereads .wide (.num (.infinity false)) "Infinity".toList :=
  rereads_plain (show bytes "Infinity".toList =
    0x49 :: [0x6E, 0x66, 0x69, 0x6E, 0x69, 0x74, 0x79] from rfl)
    (by decide) (by decide) (by decide) fun _ _ _ _ => rfl

lemma rereads_negativeInfinity : Rereads .wide (.num (.infinity true)) "-Infinity".toList :=
  rereads_plain (show bytes "-Infinity".toList =
    0x2D :: [0x49, 0x6E, 0x66, 0x69, 0x6E, 0x69, 0x74, 0x79] from rfl)
    (by decide) (by decide) (by decide) fun _ _ _ _ => rfl

/-! ### Tokens -/

lemma bytes_bracket (more : List Char) : bytes (']' :: more) = 0x5D :: bytes more :=
  bytes_ascii (by decide) more

lemma bytes_brace (more : List Char) : bytes ('\x7d' :: more) = 0x7D :: bytes more :=
  bytes_ascii (by decide) more

lemma bytes_comma (more : List Char) : bytes (',' :: more) = 0x2C :: bytes more :=
  bytes_ascii (by decide) more

lemma bytes_colon (more : List Char) : bytes (':' :: more) = 0x3A :: bytes more :=
  bytes_ascii (by decide) more

/-- A closing bracket or a comma ends what stands before it, also behind blanks. -/
lemma ends_token {blank : List Char} {b : UInt8} (hblank : IsBlank blank)
    (hb : b ∈ [0x2C, 0x5D, 0x7D]) : Ends (bytes blank ++ b :: rest) := by
  refine ends_blank hblank ?_
  rintro _ ⟨⟩
  fin_cases hb <;> decide

lemma skipSpace_token {blank : List Char} {b : UInt8} (hblank : IsBlank blank)
    (hb : isSpace b = false) : skipSpace (bytes blank ++ b :: rest) = b :: rest := by
  rw [skipSpace_blank hblank, skipSpace_of_not_isSpace hb]

/-! ### Arrays -/

/-- Blanks in front of an element do not matter. -/
lemma readElements_skipSpace {input : List UInt8} :
    readElements size dialect fuel index done (skipSpace input) =
      readElements size dialect fuel index done input := by
  cases fuel with
  | zero => simp only [readElements]
  | succ fuel => simp only [readElements, readValue_skipSpace skipSpace_skipSpace]

/-- No element begins with a closing bracket. -/
lemma readElements_bracket {input : List UInt8} {result : Value × Rest}
    (hinput : ∀ b ∈ (skipSpace input).head?, b = 0x5D) :
    readElements size dialect fuel index done input ≠ .ok result := by
  cases fuel with
  | zero => simp [readElements]
  | succ fuel =>
      rcases hread : readValue size dialect fuel input with e | ⟨v, left⟩
      · simp [readElements, hread]
      · exact absurd hread (readValue_bracket hinput v)

/-- Elements are read one after the other. -/
lemma readElements_items (hitems : RereadsItems dialect items cs)
    (hsize : (bytes cs ++ rest).length ≤ size) (hfuel : 2 * (bytes cs ++ rest).length < fuel) :
    readElements size dialect fuel index done (bytes cs ++ rest) =
      .ok (.arr (done.reverse ++ items), rest) := by
  induction hitems generalizing fuel index done with
  | @last v before cs after hbefore hv hafter =>
      simp only [bytes_append, bytes_bracket, bytes_nil, List.append_assoc, List.cons_append,
        List.nil_append] at hsize hfuel ⊢
      obtain ⟨fuel, rfl⟩ := Nat.exists_eq_succ_of_ne_zero (Nat.ne_of_gt (Nat.zero_lt_of_lt hfuel))
      rw [List.length_append] at hsize hfuel
      have hread := hv size fuel (bytes after ++ 0x5D :: rest) (ends_token hafter (by decide))
        (by omega) (by omega)
      rw [readElements, readValue_skipSpace (skipSpace_blank hbefore), hread]
      simp only [skipSpace_token hafter (show isSpace 0x5D = false by decide)]
      rw [List.reverse_cons]
      rfl
  | @cons v others before cs after ds hbefore hv hafter hothers ih =>
      simp only [bytes_append, bytes_comma, List.append_assoc, List.cons_append] at hsize hfuel ⊢
      obtain ⟨fuel, rfl⟩ := Nat.exists_eq_succ_of_ne_zero (Nat.ne_of_gt (Nat.zero_lt_of_lt hfuel))
      rw [List.length_append] at hsize hfuel
      have hread := hv size fuel (bytes after ++ 0x2C :: (bytes ds ++ rest))
        (ends_token hafter (by decide)) (by omega) (by omega)
      simp only [List.length_append, List.length_cons] at hsize hfuel
      have hmore : readElements size dialect fuel (index + 1) (v :: done) (bytes ds ++ rest) =
          .ok (.arr ((v :: done).reverse ++ others), rest) :=
        ih (by rw [List.length_append]; omega) (by rw [List.length_append]; omega)
      rw [readElements, readValue_skipSpace (skipSpace_blank hbefore), hread]
      simp only [skipSpace_token hafter (show isSpace 0x2C = false by decide)]
      rw [if_neg (by decide), if_pos (by decide)]
      split
      case h_1 tail hclosed =>
        refine absurd hmore (readElements_bracket ?_)
        rw [hclosed]
        rintro _ ⟨⟩
        rfl
      case h_2 =>
        rw [readElements_skipSpace, hmore, List.reverse_cons, List.append_assoc]
        rfl

lemma bytes_openBracket (more : List Char) : bytes ('[' :: more) = 0x5B :: bytes more :=
  bytes_ascii (by decide) more

lemma bytes_openBrace (more : List Char) : bytes ('\x7b' :: more) = 0x7B :: bytes more :=
  bytes_ascii (by decide) more

lemma rereads_emptyArr : Rereads dialect (.arr []) ['[', ']'] := by
  intro size fuel rest _ _ hfuel
  obtain ⟨fuel, rfl⟩ := Nat.exists_eq_succ_of_ne_zero (n := fuel) (by
    simp [bytes_openBracket] at hfuel
    omega)
  rfl

/-- **An array is read from its elements.** -/
theorem rereads_arr (hitems : RereadsItems dialect items cs) :
    Rereads dialect (.arr items) ('[' :: cs) := by
  intro size fuel rest _ hsize hfuel
  rw [bytes_openBracket, List.cons_append, List.length_cons] at hsize hfuel
  obtain ⟨fuel, rfl⟩ := Nat.exists_eq_succ_of_ne_zero (n := fuel) (by omega)
  have hread : readElements size dialect fuel 0 [] (bytes cs ++ rest) = .ok (.arr items, rest) :=
    readElements_items hitems (by omega) (by omega)
  rw [bytes_openBracket, List.cons_append, readValue, skipSpace_of_not_isSpace (by decide)]
  simp only
  split
  case h_1 hnil =>
    refine absurd hread (readElements_bracket ?_)
    simp [hnil]
  case h_2 tail hclosed =>
    refine absurd hread (readElements_bracket ?_)
    rw [hclosed]
    rintro _ ⟨⟩
    rfl
  case h_3 => rw [readElements_skipSpace, hread]

/-! ### Objects -/

lemma skipSpace_quote {before : List Char} (hbefore : IsBlank before) (key : String)
    (more : List UInt8) :
    skipSpace (bytes before ++ (bytes (quote key) ++ more)) = bytes (quote key) ++ more := by
  rw [skipSpace_blank hbefore, bytes_quote, List.cons_append, skipSpace_of_not_isSpace (by decide)]

/-- The first member begins with a quote. -/
lemma exists_skipSpace_members (hmembers : RereadsMembers dialect members cs) (rest : List UInt8) :
    ∃ tail, skipSpace (bytes cs ++ rest) = 0x22 :: tail := by
  cases hmembers with
  | last hbefore _ _ _ =>
      rw [bytes_append, bytes_append, List.append_assoc, List.append_assoc,
        skipSpace_quote hbefore, bytes_quote]
      exact ⟨_, rfl⟩
  | cons hbefore _ _ _ _ =>
      rw [bytes_append, bytes_append, List.append_assoc, List.append_assoc,
        skipSpace_quote hbefore, bytes_quote]
      exact ⟨_, rfl⟩

/-- The name and the value of a member are read, and what stands behind them decides. -/
lemma readMembers_cons {key : String} {colon : List Char} {done : Members Value}
    {tail : List UInt8} (hcolon : IsBlank colon) (hv : Rereads dialect v cs) (htail : Ends tail)
    (hsize : (bytes (quote key) ++ 0x3A :: (bytes colon ++ (bytes cs ++ tail))).length ≤ size)
    (hfuel : 2 * (bytes (quote key) ++ 0x3A :: (bytes colon ++ (bytes cs ++ tail))).length ≤ fuel)
    {result : Except Error (Value × Rest)}
    (hresult : (match skipSpace tail with
      | [] => .error .truncated
      | b :: rest =>
        if b == 0x7D then .ok (.obj (Members.ofReverse ((key, v) :: done)), rest)
        else if b == 0x2C then
          match skipSpace rest with
          | 0x7D :: rest => malformed size .trailingCommaInObject (0x7D :: rest)
          | rest => readMembers size dialect fuel ((key, v) :: done) rest
        else malformed size .expectedCommaOrBrace (b :: rest)) = result) :
    readMembers size dialect (fuel + 1) done
      (bytes (quote key) ++ 0x3A :: (bytes colon ++ (bytes cs ++ tail))) = result := by
  rw [bytes_quote, List.cons_append, List.append_assoc, List.singleton_append] at *
  simp only [List.length_append, List.length_cons] at hsize hfuel
  have hlength : (bytes (key.toList.flatMap escapeChar)).length ≤ size := by omega
  have hread := hv size fuel tail htail (by rw [List.length_append]; omega)
    (by rw [List.length_append]; omega)
  simp only [readMembers, readText_quote key hlength,
    skipSpace_of_not_isSpace (show isSpace 0x3A = false by decide),
    readValue_skipSpace (skipSpace_blank hcolon), hread]
  exact hresult

/-- Members are read one after the other. -/
lemma readMembers_members {done : Members Value} (hmembers : RereadsMembers dialect members cs)
    (hsize : (bytes cs ++ rest).length ≤ size) (hfuel : 2 * (bytes cs ++ rest).length < fuel) :
    readMembers size dialect fuel done (skipSpace (bytes cs ++ rest)) =
      .ok (.obj (Members.ofReverse (members.reverse ++ done)), rest) := by
  induction hmembers generalizing fuel done with
  | @last key v before colon cs after hbefore hcolon hv hafter =>
      obtain ⟨fuel, rfl⟩ := Nat.exists_eq_succ_of_ne_zero (Nat.ne_of_gt (Nat.zero_lt_of_lt hfuel))
      simp only [bytes_append, bytes_colon, bytes_brace, bytes_nil, List.append_assoc,
        List.cons_append, List.nil_append] at hsize hfuel ⊢
      rw [List.length_append] at hsize hfuel
      rw [skipSpace_quote hbefore]
      refine readMembers_cons hcolon hv (ends_token hafter (by decide)) (by omega) (by omega) ?_
      rw [skipSpace_token hafter (by decide)]
      rfl
  | @cons key v others before colon cs after ds hbefore hcolon hv hafter hothers ih =>
      obtain ⟨fuel, rfl⟩ := Nat.exists_eq_succ_of_ne_zero (Nat.ne_of_gt (Nat.zero_lt_of_lt hfuel))
      simp only [bytes_append, bytes_colon, bytes_comma, List.append_assoc,
        List.cons_append] at hsize hfuel ⊢
      rw [List.length_append] at hsize hfuel
      rw [skipSpace_quote hbefore]
      refine readMembers_cons hcolon hv (ends_token hafter (by decide)) (by omega) (by omega) ?_
      simp only [List.length_append, List.length_cons] at hsize hfuel
      have hmore : readMembers size dialect fuel ((key, v) :: done)
          (skipSpace (bytes ds ++ rest)) =
            .ok (.obj (Members.ofReverse (others.reverse ++ (key, v) :: done)), rest) :=
        ih (by rw [List.length_append]; omega) (by rw [List.length_append]; omega)
      obtain ⟨tail, hquote⟩ := exists_skipSpace_members hothers rest
      rw [hquote] at hmore
      rw [skipSpace_token hafter (by decide)]
      simp only [hquote]
      rw [if_neg (by decide), if_pos (by decide), List.reverse_cons, List.append_assoc]
      exact hmore

lemma rereads_emptyObj : Rereads dialect (.obj []) ['\x7b', '\x7d'] := by
  intro size fuel rest _ _ hfuel
  obtain ⟨fuel, rfl⟩ := Nat.exists_eq_succ_of_ne_zero (n := fuel) (by
    simp [bytes_openBrace] at hfuel
    omega)
  rfl

/-- **An object is read from its members**, if no name is repeated. -/
theorem rereads_obj (hnodup : members.keys.Nodup) (hmembers : RereadsMembers dialect members cs) :
    Rereads dialect (.obj members) ('\x7b' :: cs) := by
  intro size fuel rest _ hsize hfuel
  rw [bytes_openBrace, List.cons_append, List.length_cons] at hsize hfuel
  obtain ⟨fuel, rfl⟩ := Nat.exists_eq_succ_of_ne_zero (n := fuel) (by omega)
  have hread : readMembers size dialect fuel [] (skipSpace (bytes cs ++ rest)) =
      .ok (.obj (Members.ofReverse (members.reverse ++ [])), rest) :=
    readMembers_members hmembers (by omega) (by omega)
  rw [List.append_nil, Members.ofReverse_reverse hnodup] at hread
  obtain ⟨tail, hquote⟩ := exists_skipSpace_members hmembers rest
  rw [hquote] at hread
  rw [bytes_openBrace, List.cons_append, readValue, skipSpace_of_not_isSpace (by decide)]
  simp only [hquote]
  exact hread

/-! ### Whole inputs -/

/-- **A text that is read as a value is one input that is.** -/
theorem read_of_rereads (hread : Rereads dialect v cs) : read dialect (bytes cs) = .ok v := by
  have hends : Ends [] := nofun
  have hvalue := hread (bytes cs).length (2 * (bytes cs).length + 2) [] hends
    (by rw [List.append_nil]) (by rw [List.append_nil]; omega)
  rw [List.append_nil] at hvalue
  simp only [read, hvalue]
  rfl

end

end Json

end LivePage
