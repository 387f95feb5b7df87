/-
The sets of words in documents have no repetitions and list all their members,
so a word names a member exactly when it is that member's text.

* `LawfulVocabulary`: the sets of words for which this is so;
* `isSome_ofText?_iff`, `ofText?_eq_some_iff`: whether a word names a member,
  and which one.
-/
import LivePage.Document.Vocabulary
import Mathlib.Tactic

namespace LivePage

/-- A set of words without repetitions that lists all its members. -/
class LawfulVocabulary (α : Type) [Vocabulary α] : Prop where
  mem_all : ∀ a : α, a ∈ Vocabulary.all (α := α)
  text_injective : Function.Injective (Vocabulary.text (α := α))

namespace Vocabulary

variable {τ : Type} [DecidableEq τ] [Textual τ] {α : Type} [Vocabulary α] {word : τ}

lemma text_eq_of_ofText? {a : α} (h : ofText? α word = some a) : Textual.lit (text a) = word := by
  rw [ofText?] at h
  simpa using List.find?_some h

/-- A word names a member just when it is listed. -/
lemma isSome_ofText?_iff :
    (ofText? α word).isSome ↔ ∃ listed ∈ words α, word = Textual.lit listed := by
  simp only [ofText?, List.find?_isSome, words, List.mem_map, exists_exists_and_eq_and, beq_iff_eq]
  exact exists_congr fun a => and_congr_right fun _ => eq_comm

variable [LawfulVocabulary α]

lemma text_mem_words (a : α) : text a ∈ words α := List.mem_map_of_mem (LawfulVocabulary.mem_all a)

/-- The text of a member names that member. -/
@[simp]
lemma ofText?_text (a : α) : ofText? α (Textual.lit (text a) : τ) = some a := by
  have hlisted : (ofText? α (Textual.lit (text a) : τ)).isSome :=
    isSome_ofText?_iff.mpr ⟨_, text_mem_words a, rfl⟩
  obtain ⟨b, hb⟩ := Option.isSome_iff_exists.mp hlisted
  rw [hb, LawfulVocabulary.text_injective (Textual.lit_inj.mp (text_eq_of_ofText? hb))]

/-- A word names the member whose text it is. -/
lemma ofText?_eq_some_iff {a : α} : ofText? α word = some a ↔ word = Textual.lit (text a) :=
  ⟨fun h => (text_eq_of_ofText? h).symm, fun h => h ▸ ofText?_text a⟩

end Vocabulary

instance : LawfulVocabulary ComponentKind where
  mem_all a := by cases a <;> simp [Vocabulary.all]
  text_injective a b h := by cases a <;> cases b <;> simp_all [Vocabulary.text]

instance : LawfulVocabulary ActionKind where
  mem_all a := by cases a <;> simp [Vocabulary.all]
  text_injective a b h := by cases a <;> cases b <;> simp_all [Vocabulary.text]

instance : LawfulVocabulary Method where
  mem_all a := by cases a <;> simp [Vocabulary.all]
  text_injective a b h := by cases a <;> cases b <;> simp_all [Vocabulary.text]

instance : LawfulVocabulary Direction where
  mem_all a := by cases a <;> simp [Vocabulary.all]
  text_injective a b h := by cases a <;> cases b <;> simp_all [Vocabulary.text]

instance : LawfulVocabulary Alignment where
  mem_all a := by cases a <;> simp [Vocabulary.all]
  text_injective a b h := by cases a <;> cases b <;> simp_all [Vocabulary.text]

end LivePage
