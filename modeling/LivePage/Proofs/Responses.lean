/-
What becomes of a response. It carries a JSON value or a text, as its content
type has it, or nothing at all. What a response with another status than a
success carries is the message of a refusal.

* `Json.compact_ne_empty`: a written value is never empty;
* `Response.SaysJson`, `Response.Carries`: what a response carries;
* `Refusal`: the message of a refusal;
* `outcome_of_response`: what becomes of a response;
* `refusal_without_body`: a refusal that the empty body takes for bad JSON.
-/
import LivePage.Http.Client
import Mathlib.Tactic

namespace LivePage

/-! ### Written values -/

section

variable {layout : NumberLayout}

lemma NumberLayout.scientific_ne_nil (digits : List Char) (exponent : ℤ) :
    layout.scientific digits exponent ≠ [] := by
  simp [scientific]

lemma NumberLayout.positional_ne_nil (whole fraction : List Char) :
    positional whole fraction ≠ [] := by
  simp [positional]

lemma NumberLayout.writeDecimal_ne_nil (d : Decimal) : layout.writeDecimal d ≠ [] := by
  simp only [writeDecimal]
  split
  · exact scientific_ne_nil _ _
  · split <;> exact positional_ne_nil _ _

/-- A double is written as a word or with digits. -/
lemma Double.write_ne_empty (hnan : layout.nan ≠ "") (hinfinity : layout.infinity ≠ "")
    (hnegative : layout.negativeInfinity ≠ "") (x : Double) : x.write layout ≠ "" := by
  rcases x with payload | ⟨negative, size⟩
  · exact hnan
  · simp only [write]
    split
    · split
      · exact hnegative
      · exact hinfinity
    · have hdigits : (if size.rank = 0 then ['0', '.', '0'] else
          layout.writeDecimal size.shortest) ≠ [] := by
        split
        · simp
        · exact NumberLayout.writeDecimal_ne_nil _
      split <;> simp [hdigits]

end

namespace Json

lemma repr_ne_empty (n : ℤ) : n.repr ≠ "" := by
  cases n with
  | ofNat m => exact Nat.repr_ne_empty
  | negSucc m => simp [Int.repr]

lemma writePlain_ne_nil {layout : NumberLayout} (hlayout : layout = .compact ∨ layout = .pretty)
    (v : Value) : writePlain layout v ≠ [] := by
  cases v with
  | bool b => cases b <;> simp [writePlain]
  | int n => simpa [writePlain] using repr_ne_empty n
  | num x =>
      have hwrite : x.write layout ≠ "" := by
        rcases hlayout with rfl | rfl <;> exact Double.write_ne_empty (by decide) (by decide)
          (by decide) x
      simpa [writePlain] using hwrite
  | _ => simp [writePlain, quote]

/-- **A written value is never empty.** -/
lemma compact_ne_empty (v : Value) : compact v ≠ "" := by
  have hlayout : compactLayout v = .compact ∨ compactLayout v = .pretty := by
    rw [compactLayout]
    split
    · exact .inl rfl
    · exact .inr rfl
  have hplain := writePlain_ne_nil hlayout v
  cases v <;> simp_all [compact, write]

end Json

/-! ### What a response carries -/

lemma Json.decode_eq_ok_iff {input : List UInt8} {v : Value} :
    decode false (.bytes input) = .ok v ↔ read .strict input = .ok v := by
  have hbytes : decode false (.bytes input) = decodeBytes false input := rfl
  rw [hbytes, decodeBytes]
  rcases read .strict input with (_ | _ | _ | _ | _) | _ <;> simp

namespace Response

variable {r : Response} {v : Value}

/-- The content type names JSON somewhere. -/
def SaysJson (r : Response) : Prop := jsonContentType.toList <:+: r.contentType.toList

/-- The status is one of success. -/
def Succeeds (r : Response) : Prop := 200 ≤ r.status ∧ r.status ≤ 299

/-- A response carries a value: what its body is as JSON, or its body as a text. -/
inductive Carries (r : Response) : Value → Prop
  | json {v : Value} (htype : r.SaysJson) (hbody : Json.read .strict r.body = .ok v) : Carries r v
  | text {s : String} (htype : ¬r.SaysJson) (hbody : r.text = .ok s) : Carries r (.str s)

lemma occursIn_iff {part whole : List Char} : occursIn part whole ↔ part <:+: whole := by
  induction whole with
  | nil => simp [occursIn]
  | cons c rest ih => simp [occursIn, ih, List.infix_cons_iff]

lemma isJson_iff : r.isJson ↔ r.SaysJson := occursIn_iff

lemma isSuccess_iff : r.isSuccess ↔ r.Succeeds := by simp [isSuccess, Succeeds]

lemma carries_iff_of_json (htype : r.SaysJson) :
    r.Carries v ↔ Json.read .strict r.body = .ok v := by
  refine ⟨fun hcarries => ?_, .json htype⟩
  cases hcarries with
  | json _ hbody => exact hbody
  | text hother => exact absurd htype hother

lemma carries_iff_of_text (htype : ¬r.SaysJson) :
    r.Carries v ↔ ∃ s, r.text = .ok s ∧ v = .str s := by
  constructor
  · intro hcarries
    cases hcarries with
    | json hother => exact absurd hother htype
    | text _ hbody => exact ⟨_, hbody, rfl⟩
  · rintro ⟨s, hbody, rfl⟩
    exact .text htype hbody

lemma decode_eq_ok_iff : r.decode = .ok v ↔ r.Carries v := by
  rw [decode]
  split
  case isTrue htype =>
    rw [carries_iff_of_json (isJson_iff.mp htype), ← Json.decode_eq_ok_iff]
    cases Json.decode false (.bytes r.body) <;> simp [Except.mapError]
  case isFalse htype =>
    rw [carries_iff_of_text (isJson_iff.not.mp htype)]
    cases r.text <;> simp [Except.map, eq_comm]

/-- The empty body is a text, but no JSON. -/
lemma decode_of_body_eq_nil (hbody : r.body = []) :
    r.decode = if r.isJson then .error (.json (.invalid .truncated)) else .ok (.str "") := by
  rw [decode, text, hbody]
  rfl

end Response

/-- Data comes from a success that carries it. -/
lemma outcomeOf_eq_ok_iff {reply : Reply} {v : Value} :
    outcomeOf reply = .ok v ↔ ∃ r, reply = .response r ∧ r.Carries v ∧ r.Succeeds := by
  rcases reply with r | cause
  · rw [outcomeOf]
    rcases hdecode : r.decode with cause | value
    · have hnothing : ¬r.Carries v := by
        rw [← Response.decode_eq_ok_iff, hdecode]
        exact nofun
      simp [hnothing]
    · have hcarries : r.Carries v ↔ value = v := by
        rw [← Response.decode_eq_ok_iff, hdecode, Except.ok.injEq]
      by_cases hstatus : r.Succeeds <;>
        simp [Response.isSuccess_iff, hstatus, hcarries]
  · simp [outcomeOf]

lemma outcomeOf_eq_transport_iff {reply : Reply} {cause : TransportFailure} :
    outcomeOf reply = .error (.transport cause) ↔ reply = .failure cause := by
  rcases reply with r | other
  · rw [outcomeOf]
    rcases r.decode with _ | v
    · simp
    · cases r.isSuccess <;> simp
  · simp [outcomeOf]

/-! ### Refusals -/

/-- What is said of a response that is no success: what it carries, if that is something. -/
inductive Refusal (status : ℕ) : Value → String → Prop
  | text {s : String} (hs : s ≠ "") : Refusal status (.str s) s
  | value {v : Value} (hv : ∀ s, v ≠ .str s) : Refusal status v (Json.compact v)
  | empty : Refusal status (.str "") s!"Request failed with {status}"

lemma refusal_message (status : ℕ) (v : Value) : Refusal status v (refusalMessage status v) := by
  rcases hs : v.str? with _ | s
  · have hv (s : String) : v ≠ .str s := by
      rintro rfl
      cases hs
    have hmessage : refusalMessage status v = Json.compact v := by
      cases v <;> simp_all [refusalMessage, Json.compact_ne_empty]
    rw [hmessage]
    exact .value hv
  · obtain rfl : v = .str s := by cases v <;> simp_all [Value.str?]
    by_cases hempty : s = ""
    · subst hempty
      exact .empty
    · have hmessage : refusalMessage status (.str s) = s := by simp [refusalMessage, hempty]
      rw [hmessage]
      exact .text hempty

namespace Response

/-- What becomes of a response. -/
structure Settled (r : Response) (outcome : Except RequestError Value) : Prop where
  success : ∀ v, r.Carries v → r.Succeeds → outcome = .ok v
  refusal : ∀ v, r.Carries v → ¬r.Succeeds → outcome = .error (.refused r.status v) ∧
    Refusal r.status v (RequestError.refused r.status v).message
  /-- The empty body is a refusal without a word, unless the content type names JSON. -/
  empty_text : r.body = [] → ¬r.SaysJson → ¬r.Succeeds →
    outcome = .error (.refused r.status (.str ""))
  empty_json : r.body = [] → r.SaysJson →
    outcome = .error (.undecodable (.json (.invalid .truncated)))
  nothing : (∀ v, ¬r.Carries v) → ∃ cause, outcome = .error (.undecodable cause)

end Response

/-- **What becomes of a response.** A response that carries a value gives it as data or as the
message of a refusal, as the status has it. A response that carries nothing is an error whatever
the status is, and an empty body is nothing where the content type names JSON. -/
theorem outcome_of_response (r : Response) : r.Settled (outcomeOf (.response r)) where
  success v hcarries hsuccess := by
    rw [outcomeOf, Response.decode_eq_ok_iff.mpr hcarries]
    exact if_pos (Response.isSuccess_iff.mpr hsuccess)
  refusal v hcarries hstatus := by
    refine ⟨?_, refusal_message r.status v⟩
    rw [outcomeOf, Response.decode_eq_ok_iff.mpr hcarries]
    exact if_neg (Response.isSuccess_iff.not.mpr hstatus)
  empty_text hbody htype hstatus := by
    rw [outcomeOf, Response.decode_of_body_eq_nil hbody,
      if_neg (Response.isJson_iff.not.mpr htype)]
    exact if_neg (Response.isSuccess_iff.not.mpr hstatus)
  empty_json hbody htype := by
    rw [outcomeOf, Response.decode_of_body_eq_nil hbody, if_pos (Response.isJson_iff.mpr htype)]
  nothing hnothing := by
    rw [outcomeOf]
    rcases hdecode : r.decode with cause | v
    · exact ⟨cause, rfl⟩
    · exact absurd (Response.decode_eq_ok_iff.mp hdecode) (hnothing v)

/-- A refusal without a body whose content type names JSON is no refusal, but bad JSON. -/
theorem refusal_without_body :
    let r : Response := ⟨404, [("Content-Type", "application/json")], []⟩
    r.body = [] ∧ ¬r.Succeeds ∧ ∀ v, outcomeOf (.response r) ≠ .error (.refused 404 v) := by
  intro r
  have htype : r.isJson := by decide +kernel
  have houtcome :
      outcomeOf (.response r) = .error (.undecodable (.json (.invalid .truncated))) := by
    rw [outcomeOf, Response.decode_of_body_eq_nil rfl, if_pos htype]
  refine ⟨rfl, by simp [r, Response.Succeeds], fun v => ?_⟩
  rw [houtcome]
  simp

end LivePage
