/-
What the texts of documents have to admit. A text is made of characters, or of
code points, among which surrogates may stand by themselves.

* `Textual`: types of texts;
* `Textual.asName`: a text as it is written for the name of a member.
-/
import LivePage.Text.Blank
import LivePage.Text.Raw

namespace LivePage

/-- A type of texts. -/
class Textual (τ : Type) extends Append τ where
  /-- A text made of characters. -/
  lit : String → τ
  /-- The text without white space and separators at its ends. -/
  trim : τ → τ
  /-- The text as it is written for the name of a member. -/
  asName : τ → τ
  lit_inj {s t : String} : lit s = lit t ↔ s = t
  asName_lit (s : String) : asName (lit s) = lit s
  asName_asName (t : τ) : asName (asName t) = asName t

attribute [simp] Textual.lit_inj Textual.asName_lit Textual.asName_asName

instance {τ : Type} [Textual τ] : CoeTail String τ := ⟨Textual.lit⟩

/-- A text of characters is written as it is. -/
instance : Textual String where
  lit s := s
  trim := trim
  asName s := s
  lit_inj := Iff.rfl
  asName_lit _ := rfl
  asName_asName _ := rfl

@[simp]
theorem Textual.lit_string (s : String) : (Textual.lit s : String) = s := rfl

@[simp]
theorem Textual.asName_string (s : String) : Textual.asName s = s := rfl

namespace RawText

/-- White space, or a control character that separates. Surrogates are neither. -/
def isBlank (p : CodePoint) : Bool := p.char?.any isWhiteOrSeparator

/-- The text with three replacement characters for every surrogate that stands by itself. -/
def replaced (text : RawText) : RawText :=
  text.flatMap fun
    | .char c => [.char c]
    | .surrogate _ => List.replicate 3 (.char '\uFFFD')

@[simp]
theorem ofString_inj {s t : String} : ofString s = ofString t ↔ s = t := by
  refine ⟨fun h => String.ext ?_, congrArg ofString⟩
  exact (List.map_inj_right fun _ _ => CodePoint.char.inj).mp h

theorem replaced_ofString (s : String) : (ofString s).replaced = ofString s := by
  rw [ofString, replaced, List.flatMap_map]
  exact List.map_eq_flatMap.symm

theorem replaced_replaced (text : RawText) : text.replaced.replaced = text.replaced := by
  rw [replaced, replaced, List.flatMap_assoc]
  congr 1
  funext p
  cases p <;> rfl

/-- Whatever is no character is replaced in names. -/
instance : Textual RawText where
  lit := ofString
  trim := trimmed isBlank
  asName := replaced
  lit_inj := ofString_inj
  asName_lit := replaced_ofString
  asName_asName := replaced_replaced

end RawText

end LivePage
