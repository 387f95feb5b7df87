/-
The headers of a request, beside the list of all headers that are declared for it.
Of the headers of one name the last one counts, in its own spelling, and it stands
where it was declared. Names are the same if their lower case is.

* `Headers.lastOfEach`: the headers that no later one of their name replaces;
* `Headers.layer_lastOfEach`: setting headers over others, one after the other, comes
  to the last of each name;
* `declaredHeaders`: what is declared for a request, from the content type to the
  headers of the action;
* `Bearer`: the token behind the declared headers;
* `requestHeaders_layered`: the headers of a request.
-/
import LivePage.Http.Headers
import Mathlib.Tactic

namespace LivePage

namespace Headers

variable {α : Type} {hs upper : Headers α} {h : String × α} {name : String} {value : α}

/-- The names of headers, without regard to case. -/
def lowerNames (hs : Headers α) : List String := hs.map fun h => lowerCase h.1

/-- The headers that no later one of their name replaces. -/
def lastOfEach : Headers α → Headers α
  | [] => []
  | h :: rest =>
    if lowerCase h.1 ∈ lowerNames rest then lastOfEach rest else h :: lastOfEach rest

@[simp]
lemma lowerNames_nil : lowerNames ([] : Headers α) = [] := rfl

@[simp]
lemma lowerNames_cons : lowerNames (h :: hs) = lowerCase h.1 :: lowerNames hs := rfl

@[simp]
lemma lowerNames_append : lowerNames (hs ++ upper) = lowerNames hs ++ lowerNames upper :=
  List.map_append

lemma hasName_iff : hs.hasName name ↔ lowerCase name ∈ lowerNames hs := by
  simp [hasName, sameName, lowerNames]

/-! ### The last of each name -/

lemma lastOfEach_cons_of_mem (hmem : lowerCase h.1 ∈ lowerNames hs) :
    lastOfEach (h :: hs) = lastOfEach hs :=
  if_pos hmem

lemma lastOfEach_cons_of_notMem (hmem : lowerCase h.1 ∉ lowerNames hs) :
    lastOfEach (h :: hs) = h :: lastOfEach hs :=
  if_neg hmem

/-- No name is lost. -/
lemma mem_lowerNames_lastOfEach : name ∈ lowerNames (lastOfEach hs) ↔ name ∈ lowerNames hs := by
  induction hs with
  | nil => rfl
  | cons h rest ih =>
      by_cases hmem : lowerCase h.1 ∈ lowerNames rest
      · rw [lastOfEach_cons_of_mem hmem, ih, lowerNames_cons, List.mem_cons]
        exact ⟨.inr, fun hname => hname.elim (fun heq => heq ▸ hmem) id⟩
      · rw [lastOfEach_cons_of_notMem hmem, lowerNames_cons, lowerNames_cons, List.mem_cons,
          List.mem_cons, ih]

/-- No name is left twice. -/
lemma nodup_lowerNames_lastOfEach (hs : Headers α) : (lowerNames (lastOfEach hs)).Nodup := by
  induction hs with
  | nil => exact List.nodup_nil
  | cons h rest ih =>
      by_cases hmem : lowerCase h.1 ∈ lowerNames rest
      · rwa [lastOfEach_cons_of_mem hmem]
      · rw [lastOfEach_cons_of_notMem hmem, lowerNames_cons, List.nodup_cons,
          mem_lowerNames_lastOfEach]
        exact ⟨hmem, ih⟩

/-- What is left are the headers behind which their name does not occur again. -/
lemma mem_lastOfEach_iff :
    h ∈ lastOfEach hs ↔
      ∃ before after, hs = before ++ h :: after ∧ lowerCase h.1 ∉ lowerNames after := by
  induction hs with
  | nil => simp [lastOfEach]
  | cons first rest ih =>
      -- a header behind the first one is split off there as it is in the rest
      have hrest : (∃ before after, first :: rest = before ++ h :: after ∧
          lowerCase h.1 ∉ lowerNames after) ↔
          (first = h ∧ lowerCase h.1 ∉ lowerNames rest) ∨ h ∈ lastOfEach rest := by
        rw [ih]
        constructor
        · rintro ⟨_ | ⟨b, before⟩, after, hsplit, hafter⟩
          · obtain ⟨rfl, rfl⟩ := List.cons.inj hsplit
            exact .inl ⟨rfl, hafter⟩
          · exact .inr ⟨before, after, (List.cons.inj hsplit).2, hafter⟩
        · rintro (⟨rfl, hafter⟩ | ⟨before, after, rfl, hafter⟩)
          · exact ⟨[], rest, rfl, hafter⟩
          · exact ⟨first :: before, after, rfl, hafter⟩
      rw [hrest]
      by_cases hmem : lowerCase first.1 ∈ lowerNames rest
      · rw [lastOfEach_cons_of_mem hmem]
        exact ⟨.inr, fun hh => hh.elim (fun hfirst => absurd (hfirst.1 ▸ hmem) hfirst.2) id⟩
      · rw [lastOfEach_cons_of_notMem hmem, List.mem_cons]
        exact or_congr_left ⟨fun heq => ⟨heq.symm, heq ▸ hmem⟩, fun hfirst => hfirst.1.symm⟩

/-- The order of what is left is not changed. -/
lemma lastOfEach_sublist (hs : Headers α) : (lastOfEach hs).Sublist hs := by
  induction hs with
  | nil => exact .slnil
  | cons h rest ih =>
      by_cases hmem : lowerCase h.1 ∈ lowerNames rest
      · rw [lastOfEach_cons_of_mem hmem]
        exact ih.cons h
      · rw [lastOfEach_cons_of_notMem hmem]
        exact ih.cons_cons h

/-! ### Layers -/

/-- Setting a header is declaring it behind the others. -/
lemma set_lastOfEach (hs : Headers α) (name : String) (value : α) :
    (lastOfEach hs).set name value = lastOfEach (hs ++ [(name, value)]) := by
  induction hs with
  | nil => rfl
  | cons h rest ih =>
      rw [set] at ih
      rw [set, List.cons_append]
      by_cases hmem : lowerCase h.1 ∈ lowerNames rest
      · have hlater : lowerCase h.1 ∈ lowerNames (rest ++ [(name, value)]) := by simp [hmem]
        rw [lastOfEach_cons_of_mem hmem, lastOfEach_cons_of_mem hlater, ih]
      · rw [lastOfEach_cons_of_notMem hmem]
        by_cases hname : lowerCase h.1 = lowerCase name
        · have hlater : lowerCase h.1 ∈ lowerNames (rest ++ [(name, value)]) := by simp [hname]
          rw [lastOfEach_cons_of_mem hlater, ← ih,
            List.filter_cons_of_neg (by simp [sameName, hname])]
        · have hlater : lowerCase h.1 ∉ lowerNames (rest ++ [(name, value)]) := by
            simp [hmem, hname]
          rw [lastOfEach_cons_of_notMem hlater, ← ih,
            List.filter_cons_of_pos (by simp [sameName, hname]), List.cons_append]

/-- **Layers**: setting headers one after the other comes to the last of each name. -/
theorem layer_lastOfEach (hs upper : Headers α) :
    (lastOfEach hs).layer upper = lastOfEach (hs ++ upper) := by
  induction upper generalizing hs with
  | nil => rw [List.append_nil]; rfl
  | cons h rest ih =>
      have hset : (lastOfEach hs).layer (h :: rest) =
          ((lastOfEach hs).set h.1 h.2).layer rest := rfl
      rw [hset, set_lastOfEach, ih, List.append_assoc]
      rfl

/-- A name that is set again, in another spelling. -/
example : layer [("Page", 1), ("Accept", 2)] [("PAGE", 3)] = [("Accept", 2), ("PAGE", 3)] := by
  rfl

end Headers

/-! ### Requests -/

open Headers

/-- All headers that are declared for a request: the content type, those of the document, and
those of the action. -/
def declaredHeaders (config : Option Config) (action : Members Value) : Headers Value :=
  let shared : Members String := ((config.map (·.headers)).bind Field.value?).getD []
  ("Content-Type", .str jsonContentType) :: (shared.mapValues .str ++ action)

/-- A configuration gives a token, which is not empty. -/
def HasToken (config : Option Config) (token : String) : Prop :=
  ∃ c, config = some c ∧ c.authToken = .given token ∧ token ≠ ""

/-- What stands behind the declared headers: a bearer token, if there is a token and nothing that
is declared authorizes already; else nothing. -/
inductive Bearer (config : Option Config) (declared : Headers Value) : Headers Value → Prop
  | token {token : String} (htoken : HasToken config token)
      (hdeclared : "authorization" ∉ lowerNames declared) :
      Bearer config declared [("Authorization", .str ("Bearer " ++ token))]
  | authorized (hdeclared : "authorization" ∈ lowerNames declared) : Bearer config declared []
  | tokenless (htoken : ∀ token, ¬HasToken config token) : Bearer config declared []

/-- What there is to say of the headers of a request. -/
structure Layered (config : Option Config) (action : Members Value) (hs : Headers Value) :
    Prop where
  /-- No two names are the same up to case. -/
  nodup : (lowerNames hs).Nodup
  /-- They are the last declared of each name, and perhaps a bearer token. -/
  eq_append : ∃ bearer, Bearer config (declaredHeaders config action) bearer ∧
    hs = (declaredHeaders config action).lastOfEach ++ bearer
  /-- The last declared of each name are as declared, and not declared again behind that. -/
  mem_iff : ∀ h, h ∈ (declaredHeaders config action).lastOfEach ↔
    ∃ before after, declaredHeaders config action = before ++ h :: after ∧
      lowerCase h.1 ∉ lowerNames after
  /-- They are in the order in which they are declared. -/
  sublist : (declaredHeaders config action).lastOfEach.Sublist (declaredHeaders config action)
  /-- Where something that is declared authorizes, the token does not count. -/
  eq_of_authorized : "authorization" ∈ lowerNames (declaredHeaders config action) →
    ∀ c token, config = some c → requestHeaders (some { c with authToken := token }) action = hs

section

variable {config : Option Config} {action : Members Value} {bearer : Headers Value}

/-- What a request takes over from the declared headers. -/
lemma layer_declared (config : Option Config) (action : Members Value) :
    (layer (layer [("Content-Type", Value.str jsonContentType)]
      (Members.mapValues .str (((config.map (·.headers)).bind Field.value?).getD []))) action) =
      (declaredHeaders config action).lastOfEach := by
  have hfirst : [("Content-Type", Value.str jsonContentType)] =
      lastOfEach [("Content-Type", Value.str jsonContentType)] := rfl
  rw [hfirst, layer_lastOfEach, layer_lastOfEach, List.append_assoc]
  rfl

lemma hasName_authorization {hs : Headers Value} :
    hs.lastOfEach.hasName "authorization" ↔ "authorization" ∈ lowerNames hs := by
  have hlower : lowerCase "authorization" = "authorization" := rfl
  rw [hasName_iff, hlower, mem_lowerNames_lastOfEach]

lemma hasToken_iff {token : String} :
    HasToken config token ↔
      (config.map (·.authToken)).bind Field.value? = some token ∧ token ≠ "" := by
  rcases config with _ | c
  · simp [HasToken]
  · rcases htoken : c.authToken with _ | _ | given <;> simp [HasToken, htoken, Field.value?]

lemma exists_bearer (config : Option Config) (action : Members Value) :
    ∃ bearer, Bearer config (declaredHeaders config action) bearer ∧
      requestHeaders config action = (declaredHeaders config action).lastOfEach ++ bearer := by
  rcases hgiven : (config.map (·.authToken)).bind Field.value? with _ | token
  · refine ⟨[], .tokenless fun token htoken => ?_, ?_⟩
    · simp [hasToken_iff, hgiven] at htoken
    · simp [requestHeaders, layer_declared, hgiven]
  · by_cases htoken : token = ""
    · refine ⟨[], .tokenless fun other hother => ?_, ?_⟩
      · rw [hasToken_iff, hgiven, Option.some.injEq] at hother
        exact hother.2 (hother.1 ▸ htoken)
      · simp [requestHeaders, layer_declared, hgiven, htoken]
    · by_cases hdeclared : "authorization" ∈ lowerNames (declaredHeaders config action)
      · refine ⟨[], .authorized hdeclared, ?_⟩
        simp [requestHeaders, layer_declared, hgiven, hasName_authorization.mpr hdeclared]
      · refine ⟨_, .token (hasToken_iff.mpr ⟨hgiven, htoken⟩) hdeclared, ?_⟩
        simp [requestHeaders, layer_declared, hgiven, htoken, mt hasName_authorization.mp hdeclared]

/-- The bearer token has a name of its own. -/
lemma Bearer.nodup_append (hbearer : Bearer config (declaredHeaders config action) bearer) :
    (lowerNames ((declaredHeaders config action).lastOfEach ++ bearer)).Nodup := by
  have hlast := nodup_lowerNames_lastOfEach (declaredHeaders config action)
  cases hbearer with
  | token _ hdeclared =>
      have hlower : lowerCase "Authorization" = "authorization" := rfl
      rw [lowerNames_append, lowerNames_cons, lowerNames_nil, hlower, ← List.concat_eq_append]
      exact hlast.concat (mt mem_lowerNames_lastOfEach.mp hdeclared)
  | authorized => rwa [List.append_nil]
  | tokenless => rwa [List.append_nil]

lemma requestHeaders_of_authorized
    (hdeclared : "authorization" ∈ lowerNames (declaredHeaders config action)) :
    requestHeaders config action = (declaredHeaders config action).lastOfEach := by
  obtain ⟨bearer, hbearer, heq⟩ := exists_bearer config action
  cases hbearer with
  | token _ hnone => exact absurd hdeclared hnone
  | authorized => rwa [List.append_nil] at heq
  | tokenless => rwa [List.append_nil] at heq

end

/-- **The headers of a request**: of all that are declared the last of each name, up to case, where
it was declared last. A bearer token comes behind them if nothing else authorizes, and otherwise
makes no difference. -/
theorem requestHeaders_layered (config : Option Config) (action : Members Value) :
    Layered config action (requestHeaders config action) where
  nodup := by
    obtain ⟨bearer, hbearer, heq⟩ := exists_bearer config action
    rw [heq]
    exact hbearer.nodup_append
  eq_append := exists_bearer config action
  mem_iff _ := mem_lastOfEach_iff
  sublist := lastOfEach_sublist _
  eq_of_authorized := by
    rintro hdeclared c token rfl
    -- the token is no part of what is declared
    have hsame : declaredHeaders (some { c with authToken := token }) action =
        declaredHeaders (some c) action := rfl
    rw [requestHeaders_of_authorized hdeclared, ← hsame]
    exact requestHeaders_of_authorized (hsame ▸ hdeclared)

end LivePage
