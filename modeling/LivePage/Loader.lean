/-
Loading documents. Text is checked for its size, decoded and validated,
and the outcome is kept in a cache under the digest of the text; a value
that is decoded already is only validated.

* `Loader.load`: the outcome of a source;
* `Loader.read`: the outcome of a text, without a cache.
-/
import LivePage.Cache
import LivePage.Document.Validation
import LivePage.Json.Repair
import LivePage.Settings
import LivePage.Text.Digest

namespace LivePage

/-- What a document is loaded from. -/
inductive Source
  | text (text : RawText)
  | bytes (bytes : List UInt8)
  | value (v : Value)
  | document (d : Document)

/-- The outcome of loading. -/
abbrev Outcome := Except Rejection Document

/-- An outcome, with a number that tells it from the other outcomes of its loader. One that is
served from the cache keeps the number it had. -/
structure Loaded where
  serial : Nat
  outcome : Outcome

structure Loader where
  settings : Settings
  /-- Outcomes by the digests of their texts, when there is a cache. -/
  cache : Option (Cache UInt64 Loaded)
  /-- How many outcomes have been computed. -/
  computed : Nat

namespace Loader

def ofSettings (settings : Settings) : Loader where
  settings := settings
  cache := if settings.enableCache then Cache.ofCapacity? settings.cacheSize else none
  computed := 0

/-- Why loading does not answer. -/
inductive Unanswered
  /-- The text has no bytes. -/
  | unencodable (cause : Utf8.Unencodable)
  /-- Inside quotes the bytes are not UTF-8. -/
  | illFormed (part : Utf8.Malformed)
deriving DecidableEq

def Unanswered.message : Unanswered → String
  | .unencodable cause => cause.message
  | .illFormed part => part.message

/-- The outcome of a text, by itself. -/
def read (settings : Settings) (w : Writing) : Except Unanswered Outcome :=
  match Json.checkSize "Document" settings.maxDocumentSize w with
  | .error cause => .error (.unencodable cause)
  | .ok (.error cause) => .ok (.error (.limited cause))
  | .ok (.ok ()) =>
    match Json.decode settings.repairJson w with
    | .ok v => .ok (validate settings.maxDocumentDepth v)
    | .error (.unencodable cause) => .error (.unencodable cause)
    | .error (.illFormed part) => .error (.illFormed part)
    | .error cause => .ok (.error (.undecodable cause))

/-- Numbers an outcome that has been computed. -/
def record (loader : Loader) (outcome : Outcome) : Loaded × Loader :=
  (⟨loader.computed, outcome⟩, { loader with computed := loader.computed + 1 })

/-- Computes the outcome of a text. -/
def compute (loader : Loader) (w : Writing) : Except Unanswered Loaded × Loader :=
  match read loader.settings w with
  | .error cause => (.error cause, loader)
  | .ok outcome =>
    let (loaded, loader) := loader.record outcome
    (.ok loaded, loader)

/-- Loads a text, from the cache if it is there. What is computed goes into the cache. -/
def loadText (loader : Loader) (w : Writing) : Except Unanswered Loaded × Loader :=
  match loader.cache with
  | none => loader.compute w
  | some cache =>
    match Digest.ofWriting w with
    | .error cause => (.error (.unencodable cause), loader)
    | .ok key =>
      match cache.get key with
      | (some loaded, cache) => (.ok loaded, { loader with cache := some cache })
      | (none, cache) =>
        match compute { loader with cache := some cache } w with
        | (.ok loaded, loader) =>
          (.ok loaded, { loader with cache := loader.cache.map (·.set key loaded) })
        | (.error cause, loader) => (.error cause, loader)

/-- Loads a source. Only texts have to do with the cache. -/
def load (loader : Loader) : Source → Except Unanswered Loaded × Loader
  | .text text => loader.loadText (.text text)
  | .bytes bytes => loader.loadText (.bytes bytes)
  | .value v =>
    let (loaded, loader) := loader.record (validate loader.settings.maxDocumentDepth v)
    (.ok loaded, loader)
  | .document d =>
    let (loaded, loader) := loader.record (revalidate loader.settings.maxDocumentDepth d)
    (.ok loaded, loader)

end Loader

end LivePage
