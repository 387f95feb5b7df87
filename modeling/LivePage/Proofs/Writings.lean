/-
Texts with surrogates by themselves, and those that are made of characters alone. Only
the latter have bytes; the others are refused at their first surrogates. A text that has
bytes has their digest and their size, and it is the JSON that they are.

* `RawText.plain_eq_ok_iff`, `RawText.plain_eq_error_iff`: what a text is made of;
* `RawText.encode_eq_ok_iff`: the texts that have bytes, and which these are;
* `Writing.digest_congr`, `Writing.checkSize_congr`, `Writing.decode_congr`: a text and its
  bytes, or two writings with the same bytes.
-/
import LivePage.Json.Limits
import LivePage.Json.Repair
import LivePage.Text.Digest
import LivePage.Text.Textual
import Mathlib.Data.List.TakeWhile
import Mathlib.Tactic

namespace LivePage

namespace RawText

variable {text run rest : RawText} {s t : String} {offset : Fin 0x800}
  {cause : Utf8.Unencodable} {bytes : List UInt8}

lemma isChar_of_mem_ofString : ∀ p ∈ ofString s, p.isChar := by
  intro p hp
  obtain ⟨c, -, rfl⟩ := List.mem_map.mp hp
  rfl

lemma filterMap_ofString (s : String) : (ofString s).filterMap CodePoint.char? = s.toList := by
  rw [ofString, List.filterMap_map]
  exact List.filterMap_some

/-- Nothing but characters is a string. -/
lemma exists_ofString (htext : ∀ p ∈ text, p.isChar) : ∃ s, text = ofString s := by
  induction text with
  | nil => exact ⟨"", rfl⟩
  | cons p rest ih =>
      rw [List.forall_mem_cons] at htext
      obtain ⟨s, rfl⟩ := ih htext.2
      cases p with
      | char c => exact ⟨String.ofList (c :: s.toList), by simp [ofString]⟩
      | surrogate offset => cases htext.1

/-- A text is all characters, or surrogates follow those that it begins with. -/
lemma exists_split (text : RawText) :
    (∃ s, text = ofString s) ∨ ∃ s offset run rest,
      text = ofString s ++ .surrogate offset :: (run ++ rest) ∧
        (∀ p ∈ run, p.isChar = false) ∧ ∀ p ∈ rest.head?, p.isChar := by
  have hbefore := List.takeWhile_append_dropWhile (p := CodePoint.isChar) (l := text)
  obtain ⟨s, hs⟩ : ∃ s, text.takeWhile CodePoint.isChar = ofString s :=
    exists_ofString fun _ => List.mem_takeWhile_imp
  rcases hafter : text.dropWhile CodePoint.isChar with _ | ⟨p, after⟩ <;> rw [hs, hafter] at hbefore
  · rw [List.append_nil] at hbefore
    exact .inl ⟨s, hbefore.symm⟩
  · have hp := List.head?_dropWhile_not CodePoint.isChar text
    cases p with
    | char c => simp [hafter, CodePoint.isChar, CodePoint.char?] at hp
    | surrogate offset =>
        refine .inr ⟨s, offset, after.takeWhile (!·.isChar), after.dropWhile (!·.isChar),
          ?_, ?_, ?_⟩
        · rw [List.takeWhile_append_dropWhile, hbefore]
        · exact fun p hp => by simpa using List.mem_takeWhile_imp hp
        · intro p hp
          have hhead := List.head?_dropWhile_not (!·.isChar) after
          rw [Option.mem_def.mp hp] at hhead
          simpa using hhead

lemma plain_ofString (s : String) : plain s = .ok s := by
  have hall : ∀ p ∈ ofString s, p.isChar := isChar_of_mem_ofString
  rw [plain, List.dropWhile_eq_nil_iff.mpr hall, filterMap_ofString, String.ofList_toList]

lemma plain_surrogates (hrun : ∀ p ∈ run, p.isChar = false) (hrest : ∀ p ∈ rest.head?, p.isChar) :
    plain (ofString s ++ .surrogate offset :: (run ++ rest)) =
      .error ⟨offset, s.length, run.length + 1⟩ := by
  have hchars : ∀ p ∈ ofString s, p.isChar := isChar_of_mem_ofString
  have hdrop : (ofString s ++ .surrogate offset :: (run ++ rest)).dropWhile CodePoint.isChar =
      .surrogate offset :: (run ++ rest) := by
    rw [List.dropWhile_append_of_pos hchars]
    rfl
  have htake : (ofString s ++ .surrogate offset :: (run ++ rest)).takeWhile CodePoint.isChar =
      ofString s := by
    rw [List.takeWhile_append_of_pos hchars]
    exact List.append_nil _
  have hmore : (run ++ rest).takeWhile (!·.isChar) = run := by
    rw [List.takeWhile_append_of_pos fun p hp => by simp [hrun p hp]]
    cases rest with
    | nil => exact List.append_nil run
    | cons p more => simpa using hrest
  have hlength : (ofString s).length = s.length := by
    rw [ofString, List.length_map, String.length_toList]
  simp only [plain, hdrop, htake, hmore, hlength]

/-- **Texts of characters.** -/
lemma plain_eq_ok_iff : text.plain = .ok s ↔ text = ofString s := by
  constructor
  · rcases text.exists_split with ⟨t, rfl⟩ | ⟨t, offset, run, rest, rfl, hrun, hrest⟩
    · rw [plain_ofString]
      rintro ⟨⟩
      rfl
    · rw [plain_surrogates hrun hrest]
      exact nofun
  · rintro rfl
    exact plain_ofString s

/-- **Other texts** are refused for all surrogates in a row that come first. -/
lemma plain_eq_error_iff : text.plain = .error cause ↔ ∃ s run rest,
    text = ofString s ++ .surrogate cause.offset :: (run ++ rest) ∧
      (∀ p ∈ run, p.isChar = false) ∧ (∀ p ∈ rest.head?, p.isChar) ∧
      cause.position = s.length ∧ cause.length = run.length + 1 := by
  constructor
  · rcases text.exists_split with ⟨t, rfl⟩ | ⟨t, offset, run, rest, rfl, hrun, hrest⟩
    · rw [plain_ofString]
      exact nofun
    · rw [plain_surrogates hrun hrest]
      rintro ⟨⟩
      exact ⟨t, run, rest, rfl, hrun, hrest, rfl, rfl⟩
  · rintro ⟨s, run, rest, rfl, hrun, hrest, hposition, hlength⟩
    rw [plain_surrogates hrun hrest, ← hposition, ← hlength]

/-- A text with a surrogate by itself in quotes. -/
def loneSurrogate : RawText := [.char '"', .surrogate ⟨0, by decide⟩, .char '"']

lemma encode_ofString (s : String) : encode s = .ok (Utf8.encode s) := by
  rw [encode, plain_ofString]
  rfl

lemma encode_eq_ok_iff :
    text.encode = .ok bytes ↔ ∃ s, text = ofString s ∧ Utf8.encode s = bytes := by
  rw [encode]
  rcases htext : text.plain with cause | s
  · simp only [Except.map, reduceCtorEq, false_iff, not_exists, not_and]
    rintro s rfl
    rw [plain_ofString] at htext
    cases htext
  · obtain rfl := plain_eq_ok_iff.mp htext
    simp [Except.map]

/-- Whether a text is made of characters alone. -/
def isPlain (text : RawText) : Bool := text.all CodePoint.isChar

lemma isPlain_iff : text.isPlain ↔ ∃ bytes, text.encode = .ok bytes := by
  rw [isPlain, List.all_eq_true]
  constructor
  · intro hchars
    obtain ⟨s, rfl⟩ := exists_ofString hchars
    exact ⟨_, encode_ofString s⟩
  · rintro ⟨bytes, hencode⟩
    obtain ⟨s, rfl, -⟩ := encode_eq_ok_iff.mp hencode
    exact isChar_of_mem_ofString

end RawText

/-! ### Writings with the same bytes -/

namespace Writing

variable {v w : Writing} {repairing : Bool}

/-- A text has the digest of its bytes, so that they share an entry of a cache. -/
lemma digest_congr (h : v.encode = w.encode) : Digest.ofWriting v = Digest.ofWriting w := by
  rw [Digest.ofWriting, Digest.ofWriting, h]

lemma checkSize_congr (h : v.encode = w.encode) (name : String) (limit : ℤ) :
    Json.checkSize name limit v = Json.checkSize name limit w := by
  rw [Json.checkSize, Json.checkSize, h]

lemma decode_congr (h : v.encode = w.encode) :
    Json.decode repairing v = Json.decode repairing w := by
  rw [Json.decode, Json.decode, h]

lemma decode_ofString (s : String) :
    Json.decode repairing (.text s) = Json.decodeBytes repairing (Utf8.encode s) := by
  rw [Json.decode, encode, RawText.encode_ofString]

end Writing

end LivePage
