/-
Loading with a cache and without one. Whatever the cache of a loader holds is the
outcome of a text that was loaded before, under the digest of that text, so that as long
as texts have digests of their own, a loader answers as if it had no cache.

* `Loader.answer`, `Loader.answers`: what a loader answers to sources, one after the
  other;
* `Loader.load_of_encode`, `Loader.load_of_unencodable`: texts that are loaded as their
  bytes are, and texts that have none;
* `Loader.Keeps`: what the cache holds, and from which bytes;
* `Loader.Keeps.exists_read`, `Loader.Keeps.after`: the answer to bytes, and what the
  cache holds behind a source;
* `answers_of_cached`: a cache does not show in the answers.
-/
import LivePage.Loader
import LivePage.Proofs.Writings

namespace LivePage

/-! ### Entries of a cache -/

namespace Cache

variable {κ α : Type} [BEq κ] {c : Cache κ α} {key : κ} {value : α} {entry : κ × α}

lemma mem_renewed (h : entry ∈ c.renewed key value) : entry = (key, value) ∨ entry ∈ c.entries := by
  rw [renewed, List.mem_append, List.mem_singleton] at h
  rcases h with hold | hnew
  · exact .inr (List.mem_of_mem_filter hold)
  · exact .inl hnew

lemma mem_set (h : entry ∈ (c.set key value).entries) :
    entry = (key, value) ∨ entry ∈ c.entries := by
  simp only [set] at h
  split at h
  · exact mem_renewed (List.mem_of_mem_drop h)
  · exact mem_renewed h

lemma mem_of_lookup [LawfulBEq κ] (h : c.entries.lookup key = some value) :
    (key, value) ∈ c.entries := by
  obtain ⟨before, after, hentries, -⟩ := List.lookup_eq_some_iff.mp h
  rw [hentries]
  simp

/-- What is found was there, and looking it up adds nothing. -/
lemma mem_of_get [LawfulBEq κ] {found : Option α} {next : Cache κ α}
    (hget : c.get key = (found, next)) :
    (∀ value, found = some value → (key, value) ∈ c.entries) ∧
      ∀ entry ∈ next.entries, entry ∈ c.entries := by
  rw [get] at hget
  rcases hlookup : c.entries.lookup key with _ | value <;> rw [hlookup] at hget <;> cases hget
  · exact ⟨nofun, fun _ h => h⟩
  · have hmem := mem_of_lookup hlookup
    refine ⟨fun _ h => Option.some.inj h ▸ hmem, fun entry hentry => ?_⟩
    rcases mem_renewed hentry with rfl | hold
    · exact hmem
    · exact hold

end Cache

/-- The bytes of a source, if it is a text that has bytes or given in bytes. -/
def Source.texts : Source → List (List UInt8)
  | .text characters => characters.encode.toOption.toList
  | .bytes whole => [whole]
  | _ => []

/-- Different texts have different digests. -/
def DigestsApart (texts : List (List UInt8)) : Prop :=
  ∀ a ∈ texts, ∀ b ∈ texts, Digest.ofBytes a = Digest.ofBytes b → a = b

lemma DigestsApart.mono {texts more : List (List UInt8)} (h : DigestsApart more)
    (hsub : ∀ a ∈ texts, a ∈ more) : DigestsApart texts :=
  fun a ha b hb => h a (hsub a ha) b (hsub b hb)

/-- Texts that come first are among those that were there before the rest. -/
lemma mem_append_rotate {first rest earlier : List (List UInt8)} :
    ∀ a ∈ rest ++ (first ++ earlier), a ∈ first ++ rest ++ earlier := by
  intro a ha
  simp only [List.mem_append] at ha ⊢
  tauto

namespace Loader

/-! ### One source after the other -/

/-- What a loader answers to a source. -/
def answer (loader : Loader) (source : Source) : Except Unanswered Outcome :=
  (loader.load source).1.map Loaded.outcome

/-- The loader behind a source. -/
def after (loader : Loader) (source : Source) : Loader := (loader.load source).2

/-- The loader behind some sources, one after the other. -/
def afterAll (loader : Loader) (sources : List Source) : Loader := sources.foldl after loader

/-- What a loader answers to some sources, one after the other. -/
def answers (loader : Loader) : List Source → List (Except Unanswered Outcome)
  | [] => []
  | source :: rest => loader.answer source :: (loader.after source).answers rest

/-- What a source comes to by itself. -/
def verdict (settings : Settings) : Source → Except Unanswered Outcome
  | .text text => read settings (.text text)
  | .bytes bytes => read settings (.bytes bytes)
  | .value v => .ok (validate settings.maxDocumentDepth v)
  | .document d => .ok (revalidate settings.maxDocumentDepth d)

variable {loader : Loader} {settings : Settings} {source : Source} {text : RawText}
  {bytes : List UInt8} {texts more : List (List UInt8)}

/-! ### Texts and their bytes -/

lemma read_of_unencodable {cause : Utf8.Unencodable} (hencode : text.encode = .error cause) :
    read settings (.text text) = .error (.unencodable cause) := by
  rw [read, Json.checkSize, Writing.encode, hencode]
  rfl

/-- Without bytes there is no answer, and nothing changes, not even in the statistics of the
cache. -/
lemma load_of_unencodable {cause : Utf8.Unencodable} (hencode : text.encode = .error cause) :
    loader.load (.text text) = (.error (.unencodable cause), loader) := by
  have hdigest : Digest.ofWriting (.text text) = .error cause := by
    rw [Digest.ofWriting, Writing.encode, hencode]
    rfl
  rcases hcache : loader.cache with _ | cache
  · simp only [load, loadText, hcache, compute, read_of_unencodable hencode]
  · simp only [load, loadText, hcache, hdigest]

lemma read_of_encode (hencode : text.encode = .ok bytes) :
    read settings (.text text) = read settings (.bytes bytes) := by
  have hsame : (Writing.text text).encode = (Writing.bytes bytes).encode := hencode
  rw [read, read, Writing.checkSize_congr hsame, Writing.decode_congr hsame]

/-- A text is loaded as its bytes are, and shares their entry in the cache. -/
lemma load_of_encode (hencode : text.encode = .ok bytes) :
    loader.load (.text text) = loader.load (.bytes bytes) := by
  have hsame : (Writing.text text).encode = (Writing.bytes bytes).encode := hencode
  simp only [load, loadText, compute, read_of_encode hencode, Writing.digest_congr hsame]

lemma texts_of_unencodable {cause : Utf8.Unencodable} (hencode : text.encode = .error cause) :
    (Source.text text).texts = [] := by
  rw [Source.texts, hencode]
  rfl

lemma texts_of_encode (hencode : text.encode = .ok bytes) :
    (Source.text text).texts = (Source.bytes bytes).texts := by
  rw [Source.texts, hencode]
  rfl

lemma compute_eq (loader : Loader) (w : Writing) :
    (loader.compute w).1.map Loaded.outcome = read loader.settings w ∧
      (loader.compute w).2.settings = loader.settings ∧
      (loader.compute w).2.cache = loader.cache := by
  rw [compute]
  cases read loader.settings w <;> exact ⟨rfl, rfl, rfl⟩

/-! ### What the cache holds -/

/-- Whatever the cache holds is the outcome of one of some texts, under its digest. -/
def Keeps (loader : Loader) (texts : List (List UInt8)) : Prop :=
  ∀ cache, loader.cache = some cache → ∀ entry ∈ cache.entries, ∃ bytes ∈ texts,
    Digest.ofBytes bytes = entry.1 ∧ read loader.settings (.bytes bytes) = .ok entry.2.outcome

lemma ofSettings_keeps (settings : Settings) : (ofSettings settings).Keeps [] := by
  intro cache hcache entry hentry
  simp only [ofSettings, Cache.ofCapacity?] at hcache
  split_ifs at hcache
  cases hcache
  cases hentry

lemma Keeps.mono (hkeeps : loader.Keeps texts) (hsub : ∀ a ∈ texts, a ∈ more) :
    loader.Keeps more := by
  intro cache hcache entry hentry
  obtain ⟨bytes, hbytes, hentry⟩ := hkeeps cache hcache entry hentry
  exact ⟨bytes, hsub bytes hbytes, hentry⟩

/-- What loading bytes can come to: an outcome that the cache holds under their digest, or the
outcome by itself, which may go into the cache. -/
inductive Loads (loader : Loader) (bytes : List UInt8) : Except Unanswered Loaded → Loader → Prop
  | served {cache seen : Cache UInt64 Loaded} {loaded : Loaded} (hcache : loader.cache = some cache)
      (hfound : (Digest.ofBytes bytes, loaded) ∈ cache.entries)
      (hseen : ∀ entry ∈ seen.entries, entry ∈ cache.entries) :
      Loads loader bytes (.ok loaded) { loader with cache := some seen }
  | computed {result : Except Unanswered Loaded} {next : Loader}
      (hresult : result.map Loaded.outcome = read loader.settings (.bytes bytes))
      (hsettings : next.settings = loader.settings)
      (hnext : ∀ seen, next.cache = some seen → ∃ cache, loader.cache = some cache ∧
        ∀ entry ∈ seen.entries, entry ∈ cache.entries ∨
          entry.1 = Digest.ofBytes bytes ∧ result = .ok entry.2) :
      Loads loader bytes result next

lemma loads_of_load {result : Except Unanswered Loaded} {next : Loader}
    (hload : loader.load (.bytes bytes) = (result, next)) : loader.Loads bytes result next := by
  obtain ⟨rfl, rfl⟩ :
      (loader.load (.bytes bytes)).1 = result ∧ (loader.load (.bytes bytes)).2 = next := by
    rw [hload]
    exact ⟨rfl, rfl⟩
  have hdigest : Digest.ofWriting (.bytes bytes) = .ok (Digest.ofBytes bytes) := rfl
  rcases hcache : loader.cache with _ | cache
  · obtain ⟨hresult, hsettings, hsame⟩ := loader.compute_eq (.bytes bytes)
    simp only [load, loadText, hcache]
    refine .computed hresult hsettings fun seen hseen => ?_
    rw [hsame, hcache] at hseen
    cases hseen
  rcases hget : cache.get (Digest.ofBytes bytes) with ⟨_ | loaded, seen⟩
  · obtain ⟨-, hseen⟩ := Cache.mem_of_get hget
    simp only [load, loadText, hcache, hdigest, hget, compute]
    rcases hread : read loader.settings (.bytes bytes) with part | outcome
    · refine .computed hread.symm rfl ?_
      rintro _ ⟨⟩
      exact ⟨cache, hcache, fun entry hentry => .inl (hseen entry hentry)⟩
    · refine .computed hread.symm rfl ?_
      rintro _ ⟨⟩
      refine ⟨cache, hcache, fun entry hentry => ?_⟩
      rcases Cache.mem_set hentry with rfl | hold
      · exact .inr ⟨rfl, rfl⟩
      · exact .inl (hseen entry hold)
  · obtain ⟨hfound, hseen⟩ := Cache.mem_of_get hget
    simp only [load, loadText, hcache, hdigest, hget]
    exact .served hcache (hfound loaded rfl) hseen

/-! ### Steps -/

/-- A source is loaded as some bytes are, or the cache has nothing to do with it. -/
lemma load_cases (loader : Loader) (source : Source) :
    (∃ bytes, source.texts = [bytes] ∧ loader.load source = loader.load (.bytes bytes) ∧
        verdict loader.settings source = read loader.settings (.bytes bytes)) ∨
      source.texts = [] ∧ loader.answer source = verdict loader.settings source ∧
        (loader.after source).settings = loader.settings ∧
        (loader.after source).cache = loader.cache := by
  cases source with
  | text text =>
      rcases hencode : text.encode with cause | bytes
      · refine .inr ⟨texts_of_unencodable hencode, ?_, ?_, ?_⟩
        · rw [answer, load_of_unencodable hencode, verdict, read_of_unencodable hencode]
          rfl
        · rw [after, load_of_unencodable hencode]
        · rw [after, load_of_unencodable hencode]
      · exact .inl ⟨bytes, texts_of_encode hencode, load_of_encode hencode, read_of_encode hencode⟩
  | bytes bytes => exact .inl ⟨bytes, rfl, rfl, rfl⟩
  | value v => exact .inr ⟨rfl, rfl, rfl, rfl⟩
  | document d => exact .inr ⟨rfl, rfl, rfl, rfl⟩

lemma settings_after (loader : Loader) (source : Source) :
    (loader.after source).settings = loader.settings := by
  rcases loader.load_cases source with ⟨bytes, -, hload, -⟩ | ⟨-, -, hsettings, -⟩
  · rw [after, hload]
    rcases hload : loader.load (.bytes bytes) with ⟨result, next⟩
    cases loads_of_load hload with
    | served => rfl
    | computed _ hsettings => exact hsettings
  · exact hsettings

/-- **The answer to bytes** is their own outcome, or that of bytes with the same digest that were
loaded before. -/
lemma Keeps.exists_read (hkeeps : loader.Keeps texts) (bytes : List UInt8) :
    ∃ kin, (kin = bytes ∨ kin ∈ texts ∧ Digest.ofBytes kin = Digest.ofBytes bytes) ∧
      loader.answer (.bytes bytes) = read loader.settings (.bytes kin) := by
  rw [answer]
  rcases hload : loader.load (.bytes bytes) with ⟨result, next⟩
  cases loads_of_load hload with
  | served hcache hfound _ =>
      obtain ⟨kin, hkin, hdigest, hread⟩ := hkeeps _ hcache _ hfound
      exact ⟨kin, .inr ⟨hkin, hdigest⟩, hread.symm⟩
  | computed hresult => exact ⟨bytes, .inl rfl, hresult⟩

/-- Behind a source the cache may hold its outcome too. -/
lemma Keeps.after (hkeeps : loader.Keeps texts) (source : Source) :
    (loader.after source).Keeps (source.texts ++ texts) := by
  rcases loader.load_cases source with ⟨bytes, htexts, hload, -⟩ | ⟨htexts, -, hsettings, hsame⟩
  · rw [Loader.after, hload, htexts]
    rcases hload : loader.load (.bytes bytes) with ⟨result, next⟩
    cases loads_of_load hload with
    | served hcache _ hseen =>
        rintro _ ⟨⟩ entry hentry
        exact (hkeeps.mono (fun a ha => List.mem_append_right _ ha)) _ hcache entry
          (hseen entry hentry)
    | computed hresult hsettings hnext =>
        intro seen hseen entry hentry
        obtain ⟨cache, hcache, hold⟩ := hnext seen hseen
        rw [hsettings]
        rcases hold entry hentry with hentry | ⟨hkey, hloaded⟩
        · obtain ⟨kin, hkin, hentry⟩ := hkeeps cache hcache entry hentry
          exact ⟨kin, List.mem_append_right _ hkin, hentry⟩
        · rw [hloaded] at hresult
          exact ⟨bytes, List.mem_append_left _ (List.mem_singleton.mpr rfl), hkey.symm,
            hresult.symm⟩
  · rw [htexts, List.nil_append, Keeps, hsettings, hsame]
    exact hkeeps

/-- As long as texts have digests of their own, the answer is what the source comes to by
itself. -/
lemma Keeps.answer_eq (hkeeps : loader.Keeps texts) (source : Source)
    (hapart : DigestsApart (source.texts ++ texts)) :
    loader.answer source = verdict loader.settings source := by
  rcases loader.load_cases source with ⟨bytes, htexts, hload, hverdict⟩ | ⟨-, hanswer, -, -⟩
  · obtain ⟨kin, hkin, hanswer⟩ := hkeeps.exists_read bytes
    have hsame : kin = bytes := by
      rw [htexts] at hapart
      rcases hkin with hkin | ⟨hkin, hdigest⟩
      · exact hkin
      · exact hapart kin (List.mem_append_right _ hkin) bytes
          (List.mem_append_left _ (List.mem_singleton.mpr rfl)) hdigest
    rw [answer, hload, ← answer, hanswer, hsame, hverdict]
  · exact hanswer

/-! ### Runs -/

lemma Keeps.answers_eq (hkeeps : loader.Keeps texts) {sources : List Source}
    (hapart : DigestsApart (sources.flatMap Source.texts ++ texts)) :
    loader.answers sources = sources.map (verdict loader.settings) := by
  induction sources generalizing loader texts with
  | nil => rfl
  | cons source rest ih =>
      rw [List.flatMap_cons] at hapart
      have hrest := hapart.mono mem_append_rotate
      have hanswer := hkeeps.answer_eq source (hrest.mono fun _ => List.mem_append_right _)
      rw [answers, hanswer, ih (hkeeps.after source) hrest, settings_after, List.map_cons]

lemma settings_afterAll (loader : Loader) (sources : List Source) :
    (loader.afterAll sources).settings = loader.settings := by
  induction sources generalizing loader with
  | nil => rfl
  | cons source rest ih =>
      rw [afterAll, List.foldl_cons, ← afterAll, ih, settings_after]

lemma Keeps.afterAll (hkeeps : loader.Keeps texts) (sources : List Source) :
    (loader.afterAll sources).Keeps (sources.flatMap Source.texts ++ texts) := by
  induction sources generalizing loader texts with
  | nil => exact hkeeps
  | cons source rest ih =>
      rw [Loader.afterAll, List.foldl_cons, ← Loader.afterAll, List.flatMap_cons]
      exact (ih (hkeeps.after source)).mono mem_append_rotate

/-! ### Without a cache -/

lemma answer_eq_of_uncached (hcache : loader.cache = none) (source : Source) :
    loader.answer source = verdict loader.settings source ∧ (loader.after source).cache = none := by
  rcases loader.load_cases source with ⟨bytes, -, hload, hverdict⟩ | ⟨-, hanswer, -, hsame⟩
  · obtain ⟨hresult, -, hsame⟩ := loader.compute_eq (.bytes bytes)
    rw [hverdict, answer, after, hload, load, loadText, hcache]
    exact ⟨hresult, hsame.trans hcache⟩
  · exact ⟨hanswer, hsame.trans hcache⟩

lemma answers_eq_of_uncached (hcache : loader.cache = none) (sources : List Source) :
    loader.answers sources = sources.map (verdict loader.settings) := by
  induction sources generalizing loader with
  | nil => rfl
  | cons source rest ih =>
      obtain ⟨hanswer, hnext⟩ := answer_eq_of_uncached hcache source
      rw [answers, hanswer, ih hnext, settings_after, List.map_cons]

end Loader

/-- **A cache does not show.** Of whatever size it is, a loader answers to every source of a run,
whether text or value or document, as a loader without a cache does, be it one for the whole run or
a fresh one for each source. -/
theorem answers_of_cached (settings : Settings) {n : ℕ} (hn : 1 ≤ n) (sources : List Source)
    (hapart : DigestsApart (sources.flatMap Source.texts)) :
    let cached := Loader.ofSettings { settings with enableCache := true, cacheSize := n }
    let plain := Loader.ofSettings { settings with enableCache := false }
    cached.cache.map Cache.capacity = some n ∧
      cached.answers sources = plain.answers sources ∧
      cached.answers sources = sources.map plain.answer := by
  intro cached plain
  have hplain : plain.cache = none := rfl
  have hverdict (source : Source) :
      Loader.verdict cached.settings source = Loader.verdict plain.settings source := by
    cases source <;> rfl
  have hcached : cached.answers sources = sources.map (Loader.verdict plain.settings) := by
    rw [(Loader.ofSettings_keeps _).answers_eq (by rwa [List.append_nil])]
    exact List.map_congr_left fun source _ => hverdict source
  refine ⟨?_, ?_, ?_⟩
  · have hpos : (0 : ℤ) < n := by omega
    simp only [cached, Loader.ofSettings, if_true, Cache.ofCapacity?, dif_pos hpos, Option.map_some,
      Int.toNat_natCast]
  · rw [hcached, Loader.answers_eq_of_uncached hplain]
  · rw [hcached]
    exact List.map_congr_left fun source _ =>
      (Loader.answer_eq_of_uncached hplain source).1.symm

/-- Two texts in turn, as such and in bytes. In between there are bytes that are not UTF-8, a text
that has no bytes, a value and a document. -/
def mixedSources : List Source :=
  let page := "\x7b\"root\":\x7b\"id\":\"t\",\"type\":\"text\",\"text\":\"x\"\x7d\x7d"
  let list := "[1,]"
  [.text page, .bytes (Utf8.encode page), .text list, .bytes [0x22, 0xFF, 0x22],
    .bytes (Utf8.encode list), .text page, .text RawText.loneSurrogate,
    .value (.arr []),
    .document ⟨.absent, .absent, .absent, .text ⟨"t", .absent, .absent⟩ "x", .absent⟩,
    .bytes (Utf8.encode page)]

/-- With room for one outcome, bytes are served from the cache what was computed for their text,
and two outcomes are pushed out. There is no answer in two ways, and the text without bytes does not
even count as missed. -/
theorem answers_of_mixedSources :
    DigestsApart (mixedSources.flatMap Source.texts) ∧
      let cached := Loader.ofSettings { Settings.default with cacheSize := 1 }
      let plain := Loader.ofSettings { Settings.default with enableCache := false }
      (cached.afterAll mixedSources).cache.map (fun c => (c.hits, c.misses, c.evictions)) =
          some (3, 4, 2) ∧
        cached.answers mixedSources = mixedSources.map plain.answer ∧
        (cached.answers mixedSources).map Except.toBool =
          [true, true, true, false, true, true, false, true, true, true] := by
  have hapart : DigestsApart (mixedSources.flatMap Source.texts) := by
    unfold DigestsApart
    decide +kernel
  refine ⟨hapart, by decide +kernel, ?_, by decide +kernel⟩
  exact (answers_of_cached Settings.default le_rfl mixedSources hapart).2.2

end LivePage
