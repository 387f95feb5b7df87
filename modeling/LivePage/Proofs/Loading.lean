/-
What a loader answers to a text. There is an answer for whatever is too large, and for
the bytes of every text; bytes that are no text have one unless reading them ends inside
quotes, and a text without bytes has none.

* `Loader.Fits`: an answer, and what it goes by;
* `Loader.read_fits`, `Loader.answer_fits`: the answer to bytes by themselves, and that
  of a loader behind other sources to a text or to bytes;
* `Loader.unanswered_of_byte`: bytes that no loader answers to.
-/
import LivePage.Proofs.Acceptance
import LivePage.Proofs.Caching
import LivePage.Proofs.Legibility

namespace LivePage.Loader

open Utf8 (IsText)

/-- An outcome that is a refusal for one reason. -/
def RefusedOnce (outcome : Outcome) : Prop :=
  ∃ r message, outcome = .error r ∧ r.messages = [message]

/-- An answer to bytes, and what it goes by: how many they are, and what strict reading of them
comes to. -/
structure Fits (settings : Settings) (bytes : List UInt8)
    (answer : Except Unanswered Outcome) : Prop where
  /-- Too many bytes are refused for that reason alone. -/
  oversized : settings.maxDocumentSize < bytes.length →
    ∃ outcome, answer = .ok outcome ∧ RefusedOnce outcome
  /-- JSON is accepted or refused as the value that it stands for. -/
  decoded : bytes.length ≤ settings.maxDocumentSize → ∀ v, Json.read .strict bytes = .ok v →
    answer = .ok (validate settings.maxDocumentDepth v)
  /-- What is not JSON, or no text at all, is refused for one reason if it is not repaired. -/
  undecoded : settings.repairJson = false →
    ((∀ v, Json.read .strict bytes ≠ .ok v) ∨ ¬IsText bytes) →
      ∀ outcome, answer = .ok outcome → RefusedOnce outcome
  /-- A refusal has reasons. -/
  refused : ∀ r, answer = .ok (.error r) → r.messages ≠ []
  /-- There is no answer if strict reading ends inside quotes, at bytes that are not UTF-8. -/
  unanswered : ∀ part, answer = .error (.illFormed part) ↔
    bytes.length ≤ settings.maxDocumentSize ∧ Json.read .strict bytes = .error (.illFormed part)
  /-- There is no other reason for that. -/
  not_unencodable : ∀ cause, answer ≠ .error (.unencodable cause)
  /-- There is an answer to every text. -/
  answered : IsText bytes → ∃ outcome, answer = .ok outcome

variable {settings : Settings} {bytes : List UInt8}

/-! ### Bytes by themselves -/

lemma RefusedOnce.messages_ne_nil {r : Rejection} (h : RefusedOnce (.error r)) :
    r.messages ≠ [] := by
  obtain ⟨_, message, ⟨⟩, hmessages⟩ := h
  simp [hmessages]

lemma refusedOnce_limited (cause : Json.LimitError) : RefusedOnce (.error (.limited cause)) :=
  ⟨_, _, rfl, rfl⟩

lemma refusedOnce_undecodable (cause : Json.DecodeError) :
    RefusedOnce (.error (.undecodable cause)) :=
  ⟨_, _, rfl, rfl⟩

lemma read_of_oversized (hsize : settings.maxDocumentSize < bytes.length) :
    read settings (.bytes bytes) =
      .ok (.error (.limited (.tooLarge "Document" bytes.length settings.maxDocumentSize))) := by
  have hlarge : (bytes.length : ℤ) > settings.maxDocumentSize := by omega
  simp only [read, Json.checkSize, Writing.encode, Except.map, if_pos hlarge]

section

variable (hsize : bytes.length ≤ settings.maxDocumentSize)

include hsize

lemma checkSize_of_le :
    Json.checkSize "Document" settings.maxDocumentSize (.bytes bytes) = .ok (.ok ()) := by
  have hsmall : ¬(bytes.length : ℤ) > settings.maxDocumentSize := by omega
  simp only [Json.checkSize, Writing.encode, Except.map, if_neg hsmall]

lemma read_of_decoded {v : Value} (hread : Json.read .strict bytes = .ok v) :
    read settings (.bytes bytes) = .ok (validate settings.maxDocumentDepth v) := by
  simp only [read, checkSize_of_le hsize, Json.decode, Json.decodeBytes, Writing.encode, hread]

lemma read_of_illFormed {part : Utf8.Malformed}
    (hread : Json.read .strict bytes = .error (.illFormed part)) :
    read settings (.bytes bytes) = .error (.illFormed part) := by
  simp only [read, checkSize_of_le hsize, Json.decode, Json.decodeBytes, Writing.encode, hread]

/-- Whatever else is wrong, there is an outcome: that of a repair, or a refusal. -/
lemma read_of_undecoded {cause : Json.Error} (hread : Json.read .strict bytes = .error cause)
    (hcause : ∀ part, cause ≠ .illFormed part) :
    (∃ v, settings.repairJson = true ∧
      read settings (.bytes bytes) = .ok (validate settings.maxDocumentDepth v)) ∨
    ∃ refusal, read settings (.bytes bytes) = .ok (.error (.undecodable refusal)) := by
  have hdecode : (∃ v, settings.repairJson = true ∧
        Json.decode settings.repairJson (.bytes bytes) = .ok v) ∨
      (∃ reason,
        Json.decode settings.repairJson (.bytes bytes) = .error (.unrepairable cause reason)) ∨
        Json.decode settings.repairJson (.bytes bytes) = .error (.invalid cause) := by
    simp only [Json.decode, Json.decodeBytes, Writing.encode, hread]
    rcases settings.repairJson with _ | _
    · simp
    · rcases Json.repair (Utf8.decodeLossy bytes) with reason | v <;> simp
  rcases hdecode with ⟨v, hrepair, hdecode⟩ | ⟨reason, hdecode⟩ | hdecode
  · exact .inl ⟨v, hrepair, by simp only [read, checkSize_of_le hsize, hdecode]⟩
  · exact .inr ⟨.unrepairable cause reason, by simp only [read, checkSize_of_le hsize, hdecode]⟩
  · exact .inr ⟨.invalid cause, by simp only [read, checkSize_of_le hsize, hdecode]⟩

lemma fits_of_decoded {v : Value} (hread : Json.read .strict bytes = .ok v) :
    Fits settings bytes (read settings (.bytes bytes)) := by
  rw [read_of_decoded hsize hread]
  exact {
    oversized := fun h => absurd hsize (by omega)
    decoded := by simp [hread]
    undecoded := by
      rintro - (hnone | hnone)
      · exact absurd hread (hnone v)
      · exact absurd (Json.isText_of_read hread) hnone
    refused := fun r hr => messages_ne_nil (Except.ok.inj hr)
    unanswered := by simp [hread]
    not_unencodable := nofun
    answered := fun _ => ⟨_, rfl⟩ }

lemma fits_of_illFormed {part : Utf8.Malformed}
    (hread : Json.read .strict bytes = .error (.illFormed part)) :
    Fits settings bytes (read settings (.bytes bytes)) := by
  rw [read_of_illFormed hsize hread]
  exact {
    oversized := fun h => absurd hsize (by omega)
    decoded := by simp [hread]
    undecoded := by simp
    refused := by simp
    unanswered := by simp [hsize, hread]
    not_unencodable := nofun
    answered := fun htext => absurd hread (Json.read_ne_illFormed htext .strict part) }

lemma fits_of_undecoded {cause : Json.Error} (hread : Json.read .strict bytes = .error cause)
    (hcause : ∀ part, cause ≠ .illFormed part) :
    Fits settings bytes (read settings (.bytes bytes)) := by
  obtain ⟨outcome, houtcome, hreasons, honce⟩ : ∃ outcome,
      read settings (.bytes bytes) = .ok outcome ∧
      (∀ r, outcome = .error r → r.messages ≠ []) ∧
        (settings.repairJson = false → RefusedOnce outcome) := by
    rcases read_of_undecoded hsize hread hcause with ⟨v, hrepair, hv⟩ | ⟨refusal, hrefusal⟩
    · exact ⟨_, hv, fun r => messages_ne_nil, by simp [hrepair]⟩
    · have honce := refusedOnce_undecodable refusal
      exact ⟨_, hrefusal, fun r hr => (hr ▸ honce).messages_ne_nil, fun _ => honce⟩
  rw [houtcome]
  exact {
    oversized := fun h => absurd hsize (by omega)
    decoded := by simp [hread]
    undecoded := by
      rintro hrepair - _ ⟨⟩
      exact honce hrepair
    refused := fun r hr => hreasons r (Except.ok.inj hr)
    unanswered := by simp [hread, hcause]
    not_unencodable := nofun
    answered := fun _ => ⟨_, rfl⟩ }

end

lemma fits_of_oversized (hsize : settings.maxDocumentSize < bytes.length) :
    Fits settings bytes (read settings (.bytes bytes)) := by
  have honce := refusedOnce_limited
    (.tooLarge "Document" bytes.length settings.maxDocumentSize)
  rw [read_of_oversized hsize]
  exact {
    oversized := fun _ => ⟨_, rfl, honce⟩
    decoded := fun h => absurd hsize h.not_gt
    undecoded := by
      rintro - - _ ⟨⟩
      exact honce
    refused := fun r hr => (Except.ok.inj hr ▸ honce).messages_ne_nil
    unanswered := by simp [hsize.not_ge]
    not_unencodable := nofun
    answered := fun _ => ⟨_, rfl⟩ }

/-- The answer to bytes by themselves. -/
lemma read_fits (settings : Settings) (bytes : List UInt8) :
    Fits settings bytes (read settings (.bytes bytes)) := by
  by_cases hsize : bytes.length ≤ settings.maxDocumentSize
  · rcases hread : Json.read .strict bytes with cause | v
    · by_cases hcause : ∃ part, cause = .illFormed part
      · obtain ⟨part, rfl⟩ := hcause
        exact fits_of_illFormed hsize hread
      · exact fits_of_undecoded hsize hread fun part h => hcause ⟨part, h⟩
    · exact fits_of_decoded hsize hread
  · exact fits_of_oversized (by omega)

/-! ### Behind other sources -/

/-- **What a loader answers to bytes**, whatever it has loaded before: what fits them, or what fits
bytes with the same digest that it has loaded before. A text has the answer of its bytes, and none
at all if it has none. -/
theorem answer_fits (settings : Settings) (sources : List Source) (bytes : List UInt8) :
    let loader := (ofSettings settings).afterAll sources
    (∃ kin, (kin = bytes ∨
        kin ∈ sources.flatMap Source.texts ∧ Digest.ofBytes kin = Digest.ofBytes bytes) ∧
      Fits settings kin (loader.answer (.bytes bytes))) ∧
    ∀ text : RawText,
      (text.encode = .ok bytes → loader.answer (.text text) = loader.answer (.bytes bytes)) ∧
        ∀ cause, text.encode = .error cause →
          loader.answer (.text text) = .error (.unencodable cause) := by
  intro loader
  have hkeeps := (ofSettings_keeps settings).afterAll sources
  obtain ⟨kin, hkin, hanswer⟩ := hkeeps.exists_read bytes
  refine ⟨⟨kin, by rwa [List.append_nil] at hkin, ?_⟩, fun text => ⟨?_, ?_⟩⟩
  · rw [hanswer, settings_afterAll]
    exact read_fits settings kin
  · intro hencode
    rw [answer, answer, load_of_encode hencode]
  · intro cause hencode
    rw [answer, load_of_unencodable hencode]
    rfl

/-- The answer of a loader that has loaded nothing. -/
lemma answer_ofSettings (settings : Settings) (source : Source) :
    (ofSettings settings).answer source = verdict settings source := by
  refine (ofSettings_keeps settings).answer_eq source ?_
  rw [List.append_nil]
  rcases (ofSettings settings).load_cases source with ⟨bytes, htexts, -, -⟩ | ⟨htexts, -, -, -⟩ <;>
    rw [htexts]
  · intro a ha b hb _
    rw [List.mem_singleton.mp ha, List.mem_singleton.mp hb]
  · exact nofun

/-- A byte in quotes that begins no character. With a repair or without one there is no answer to
it, neither a document nor a refusal. -/
theorem unanswered_of_byte :
    let answer (repairing : Bool) :=
      (ofSettings { Settings.default with repairJson := repairing }).answer
        (.bytes [0x22, 0xFF, 0x22])
    (¬∃ outcome, answer false = .ok outcome) ∧ ¬∃ outcome, answer true = .ok outcome := by
  have hread : Json.read .strict [0x22, 0xFF, 0x22] =
      .error (.illFormed ⟨.invalidStart, 0, 1, 0xFF⟩) := rfl
  have hanswer (repairing : Bool) :
      (ofSettings { Settings.default with repairJson := repairing }).answer
        (.bytes [0x22, 0xFF, 0x22]) = .error (.illFormed ⟨.invalidStart, 0, 1, 0xFF⟩) := by
    have hsize : [0x22, 0xFF, 0x22].length ≤ Settings.default.maxDocumentSize := by decide
    rw [answer_ofSettings]
    exact read_of_illFormed hsize hread
  simp [hanswer]

end LivePage.Loader
