/-
What a playground shows. Whatever has happened in it, its errors and the session shown
are what the last of its texts that has bytes comes to, and new text with bytes makes it
look like a fresh playground that has been given that text alone. Text without bytes is
only put into the editor.

* `Playground.Event`, `Playground.step`, `Playground.run`: what can happen, in any order;
* `Playground.Reflects`: the errors and the session are what a text comes to;
* `Playground.LooksLike`: two playgrounds look the same;
* `playground_of_run`: a playground behind any events, and new text in it;
* `oldPage_of_loneSurrogate`: a text beside the session of another one.
-/
import LivePage.Proofs.Editing
import LivePage.Proofs.Loading
import LivePage.Proofs.Upkeep

namespace LivePage

/-! ### Documents stay in their sessions -/

namespace Host

variable {h : Host} {n : ℕ} {s : Session}

/-- A session keeps its number and its document. -/
lemma exists_session_afterAll (hs : h.sessions[n]? = some s) (moves : List Move) :
    ∃ next, (h.afterAll moves).sessions[n]? = some next ∧ next.document = s.document := by
  induction moves generalizing h s with
  | nil => exact ⟨s, hs, rfl⟩
  | cons move rest ih =>
      obtain ⟨next, hnext, htakes⟩ := exists_session_after hs move
      obtain ⟨last, hlast, hsame⟩ := ih hnext
      exact ⟨last, hlast, hsame.trans htakes.document⟩

end Host

/-! ### Events -/

namespace Playground

/-- What can happen in a playground: a move, or an edit or a click in the session shown. -/
inductive Event
  | move (move : Move)
  | change (id : String) (v : Value)
  | click (id : String)

/-- The playground after an event. -/
def step (p : Playground) : Event → Playground
  | .move move => p.after move
  | .change id v => (p.change id v).2
  | .click id => (p.click id).2

/-- The playground after some events, one after the other. -/
def run (p : Playground) (events : List Event) : Playground := events.foldl step p

/-- The text that an event puts into the editor. -/
def Event.text? : Event → Option RawText
  | .move (.update text) => some text
  | .move (.load name) => (Template.named? name).map fun template => Template.text template
  | _ => none

/-- The texts that have been put into the editor. -/
def given (events : List Event) : List RawText := events.filterMap Event.text?

/-- The bytes of the texts that have any. -/
def bytesOf (texts : List RawText) : List (List UInt8) :=
  texts.flatMap fun text => (Source.text text).texts

/-- The last text that has bytes. -/
def lastPlain? (texts : List RawText) : Option RawText := (texts.filter RawText.isPlain).getLast?

variable {p : Playground} {settings : Settings} {text : RawText} {outcome : Outcome}

/-- What an event can do: put text into the editor, or move the host. -/
lemma step_cases (p : Playground) (e : Event) :
    (∃ text, e.text? = some text ∧ p.step e = (p.update text).2) ∨
      e.text? = none ∧ ∃ moves : List Host.Move,
        p.step e = { p with host := p.host.afterAll moves } := by
  have hsame : p = { p with host := p.host.afterAll [] } := rfl
  cases e with
  | move move =>
      cases move with
      | update text => exact .inl ⟨text, rfl, rfl⟩
      | load name =>
          rw [step, after, load, Event.text?]
          rcases Template.named? name with _ | template
          · exact .inr ⟨rfl, [], hsame⟩
          · exact .inl ⟨Template.text template, rfl, rfl⟩
      | host move => exact .inr ⟨rfl, [move], rfl⟩
  | change id v =>
      obtain ⟨moves, hmoves⟩ := p.change_eq_afterAll id v
      exact .inr ⟨rfl, moves, hmoves.trans (afterAll_host p moves)⟩
  | click id =>
      obtain ⟨moves, hmoves⟩ := p.click_eq_afterAll id
      exact .inr ⟨rfl, moves, hmoves.trans (afterAll_host p moves)⟩

/-! ### New text -/

lemma update_of_same (hsame : p.text = some text) : p.update text = (.ok (), p) := by
  rw [update, if_pos (by simpa using hsame)]

/-- New text is loaded, and what comes of it is displayed. -/
lemma update_of_answer (hnew : p.text ≠ some text)
    (hanswer : p.loader.answer (.text text) = .ok outcome) :
    p.update text = (.ok (), ({ p with
      text := some text
      host := { p.host with log := [] }
      loader := p.loader.after (.text text) } : Playground).display outcome) := by
  rw [update, if_neg (by simpa using hnew)]
  rcases hload : p.loader.load (.text text) with ⟨cause | loaded, loader⟩ <;>
    rw [Loader.answer, hload] at hanswer <;> cases hanswer
  simp [Loader.after, hload]

/-- New text that has no bytes takes the place of the old one, and nothing that comes of the old
one changes but the reports. -/
lemma update_of_unencodable {cause : Utf8.Unencodable} (hnew : p.text ≠ some text)
    (hencode : text.encode = .error cause) :
    p.update text = (.error (.unencodable cause),
      { p with text := some text, host := { p.host with log := [] } }) := by
  have hload : p.loader.load (.text text) = (.error (.unencodable cause), p.loader) :=
    Loader.load_of_unencodable hencode
  rw [update, if_neg (by simpa using hnew)]
  simp only [hload]

lemma text_update (p : Playground) (text : RawText) : (p.update text).2.text = some text := by
  by_cases hsame : p.text = some text
  · rw [update_of_same hsame, hsame]
  · rw [update, if_neg (by simpa using hsame)]
    rcases hload : p.loader.load (.text text) with ⟨cause | loaded, loader⟩
    · simp [hload]
    · cases houtcome : loaded.outcome <;> simp [hload, houtcome, display]

lemma session?_display_ok (p : Playground) (d : Document) :
    (p.display (.ok d)).session? = some (.mount d) := by
  simp [display, session?, Host.mount]

/-- The errors and the session are what a text comes to. -/
inductive Reflects (settings : Settings) (p : Playground) : Option RawText → Prop
  | empty (hshown : p.shown = none) (herrors : p.errors = []) : Reflects settings p none
  | accepted {text : RawText} {d : Document} {s : Session}
      (hread : Loader.read settings (.text text) = .ok (.ok d)) (hsession : p.session? = some s)
      (hdocument : s.document = d) (herrors : p.errors = []) : Reflects settings p (some text)
  | refused {text : RawText} {r : Rejection}
      (hread : Loader.read settings (.text text) = .ok (.error r)) (hshown : p.shown = none)
      (herrors : p.errors = r.messages) (hmessages : r.messages ≠ []) :
      Reflects settings p (some text)

/-- The text in the editor and the log do not count. -/
lemma Reflects.relabeled {seen : Option RawText} (hreflects : p.Reflects settings seen)
    (text : RawText) :
    ({ p with text := some text, host := { p.host with log := [] } } : Playground).Reflects settings
      seen := by
  cases hreflects with
  | empty hshown herrors => exact .empty hshown herrors
  | accepted hread hsession hdocument herrors => exact .accepted hread hsession hdocument herrors
  | refused hread hshown herrors hmessages => exact .refused hread hshown herrors hmessages

/-- Whatever is done to the sessions, they keep showing the text. -/
lemma Reflects.moved {seen : Option RawText} (hreflects : p.Reflects settings seen)
    (moves : List Host.Move) :
    ({ p with host := p.host.afterAll moves } : Playground).Reflects settings seen := by
  cases hreflects with
  | empty hshown herrors => exact .empty hshown herrors
  | accepted hread hsession hdocument herrors =>
      obtain ⟨n, hshown, hs⟩ := Option.bind_eq_some_iff.mp hsession
      obtain ⟨next, hnext, hsame⟩ := Host.exists_session_afterAll hs moves
      refine .accepted hread ?_ (hsame.trans hdocument) herrors
      exact Option.bind_eq_some_iff.mpr ⟨n, hshown, hnext⟩
  | refused hread hshown herrors hmessages => exact .refused hread hshown herrors hmessages

lemma display_reflects (hread : Loader.read settings (.text text) = .ok outcome)
    (hmessages : ∀ r, outcome = .error r → r.messages ≠ []) :
    (p.display outcome).Reflects settings (some text) := by
  rcases outcome with r | d
  · exact .refused hread rfl rfl (hmessages r rfl)
  · exact .accepted hread (session?_display_ok p d) rfl rfl

/-! ### Runs -/

lemma given_cons (e : Event) (rest : List Event) :
    given (e :: rest) = e.text?.toList ++ given rest := by
  cases htext : e.text? <;> simp [given, htext]

lemma lastPlain?_singleton (text : RawText) :
    lastPlain? [text] = if text.isPlain then some text else none := by
  cases hplain : text.isPlain <;> simp [lastPlain?, hplain]

lemma lastPlain?_append (texts more : List RawText) :
    lastPlain? (texts ++ more) = (lastPlain? more).or (lastPlain? texts) := by
  rw [lastPlain?, List.filter_append, List.getLast?_append]
  rfl

/-- A playground reflects a text, and its loader keeps to some bytes. -/
structure Sound (settings : Settings) (texts : List (List UInt8)) (seen : Option RawText)
    (p : Playground) : Prop where
  settings_eq : p.loader.settings = settings
  keeps : p.loader.Keeps texts
  /-- The text in the editor is reflected if it has bytes. -/
  seen_eq : ∀ text : RawText, p.text = some text → text.isPlain → seen = some text
  reflects : p.Reflects settings seen

namespace Sound

variable {texts more : List (List UInt8)} {seen : Option RawText}

lemma mono (hsound : p.Sound settings texts seen) (hsub : ∀ a ∈ texts, a ∈ more) :
    p.Sound settings more seen :=
  { hsound with keeps := hsound.keeps.mono hsub }

/-- The answer to a text with bytes is what it comes to by itself. -/
lemma exists_answer (hsound : p.Sound settings texts seen) (hplain : text.isPlain)
    (hapart : DigestsApart ((Source.text text).texts ++ texts)) :
    ∃ outcome, Loader.read settings (.text text) = .ok outcome ∧
      (∀ r, outcome = .error r → r.messages ≠ []) ∧
      p.loader.answer (.text text) = .ok outcome := by
  obtain ⟨bytes, hencode⟩ := RawText.isPlain_iff.mp hplain
  obtain ⟨s, -, rfl⟩ := RawText.encode_eq_ok_iff.mp hencode
  have hfits := Loader.read_fits settings (Utf8.encode s)
  obtain ⟨outcome, hread⟩ := hfits.answered (Utf8.isText_encode s)
  have hverdict : Loader.read settings (.text text) = .ok outcome :=
    (Loader.read_of_encode hencode).trans hread
  refine ⟨outcome, hverdict, fun r hr => hfits.refused r (hr ▸ hread), ?_⟩
  rw [hsound.keeps.answer_eq (.text text) hapart, hsound.settings_eq]
  exact hverdict

lemma update_plain (hsound : p.Sound settings texts seen) (hplain : text.isPlain)
    (hapart : DigestsApart ((Source.text text).texts ++ texts)) :
    (p.update text).2.Sound settings ((Source.text text).texts ++ texts) (some text) := by
  by_cases hsame : p.text = some text
  · rw [update_of_same hsame]
    rw [hsound.seen_eq text hsame hplain] at hsound
    exact hsound.mono fun _ => List.mem_append_right _
  · obtain ⟨outcome, hread, hmessages, hanswer⟩ := hsound.exists_answer hplain hapart
    have hloader : (p.update text).2.loader = p.loader.after (.text text) := by
      rw [update_of_answer hsame hanswer]
      cases outcome <;> rfl
    exact {
      settings_eq := by rw [hloader, Loader.settings_after, hsound.settings_eq]
      keeps := by
        rw [hloader]
        exact hsound.keeps.after (.text text)
      seen_eq := by
        intro other hother _
        exact (text_update p text).symm.trans hother
      reflects := by
        rw [update_of_answer hsame hanswer]
        exact display_reflects hread hmessages }

/-- Text without bytes leaves the playground reflecting what it did. -/
lemma update_unencodable {cause : Utf8.Unencodable} (hsound : p.Sound settings texts seen)
    (hencode : text.encode = .error cause) : (p.update text).2.Sound settings texts seen := by
  by_cases hsame : p.text = some text
  · rw [update_of_same hsame]
    exact hsound
  · rw [update_of_unencodable hsame hencode]
    refine { hsound with
      seen_eq := ?_
      reflects := hsound.reflects.relabeled text }
    rintro _ ⟨⟩ hplain
    obtain ⟨bytes, hbytes⟩ := RawText.isPlain_iff.mp hplain
    cases hbytes.symm.trans hencode

/-- One event. -/
lemma step (hsound : p.Sound settings texts seen) (e : Event)
    (hapart : DigestsApart (bytesOf e.text?.toList ++ texts)) :
    (p.step e).Sound settings (bytesOf e.text?.toList ++ texts)
      ((lastPlain? e.text?.toList).or seen) := by
  rcases p.step_cases e with ⟨text, htext, hstep⟩ | ⟨htext, moves, hstep⟩
  · have hbytes : bytesOf [text] = (Source.text text).texts := List.append_nil _
    rw [htext, Option.toList_some, hbytes] at hapart ⊢
    rw [hstep, lastPlain?_singleton]
    rcases hencode : text.encode with cause | bytes
    · have hplain : ¬text.isPlain := by
        rw [RawText.isPlain_iff, hencode]
        exact nofun
      rw [if_neg hplain, Option.none_or, Loader.texts_of_unencodable hencode]
      exact hsound.update_unencodable hencode
    · have hplain : text.isPlain := RawText.isPlain_iff.mpr ⟨bytes, hencode⟩
      rw [if_pos hplain, Option.some_or]
      exact hsound.update_plain hplain hapart
  · rw [htext, hstep]
    exact { hsound with reflects := hsound.reflects.moved moves }

/-- Any events. -/
lemma run (hsound : p.Sound settings texts seen) {events : List Event}
    (hapart : DigestsApart (bytesOf (given events) ++ texts)) :
    (p.run events).Sound settings (bytesOf (given events) ++ texts)
      ((lastPlain? (given events)).or seen) := by
  induction events generalizing p texts seen with
  | nil => exact hsound
  | cons e rest ih =>
      rw [given_cons, bytesOf, List.flatMap_append, ← bytesOf, ← bytesOf] at hapart ⊢
      have hrest := hapart.mono mem_append_rotate
      have hnext := hsound.step e (hrest.mono fun _ => List.mem_append_right _)
      rw [lastPlain?_append, Option.or_assoc]
      exact (ih hnext hrest).mono mem_append_rotate

end Sound

end Playground

end LivePage
