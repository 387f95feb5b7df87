/-
Reading bytes as text from the front. A scan takes one group of bytes after
the other; a group either means some characters or means nothing.

* `scan`, `scanFrom`: the scan of some bytes;
* `Scanned.lossy`, `Scanned.strict?`: the text that a scan gives, with or
  without groups that mean nothing.
-/
import LivePage.Text.Utf8

namespace LivePage

/-- The group at the front of some bytes. Its length does not count the first byte. -/
inductive ByteGroup
  | means (text : List Char) (more : Nat)
  | meaningless (more : Nat)

/-- A group that means one character, if there is one. Otherwise the first byte means nothing. -/
def ByteGroup.ofChar? (c : Option Char) (more : Nat) : ByteGroup :=
  match c with
  | some c => .means [c] more
  | none => .meaningless 0

/-- Characters in order, and `none` for each group that means nothing. -/
abbrev Scanned := List (Option Char)

/-- The scan of some bytes, given the group at the front of a first byte and the rest. A group may
change what the bytes behind it mean. -/
def scanFrom {σ : Type} (front : σ → UInt8 → List UInt8 → ByteGroup × σ) :
    σ → List UInt8 → Scanned
  | _, [] => []
  | state, b :: rest =>
    match front state b rest with
    | (.means text more, next) => text.map some ++ scanFrom front next (rest.drop more)
    | (.meaningless more, next) => none :: scanFrom front next (rest.drop more)
  termination_by _ bytes => bytes.length
  decreasing_by all_goals simp only [List.length_drop, List.length_cons]; omega

/-- The scan of some bytes that mean the same everywhere. -/
def scan (front : UInt8 → List UInt8 → ByteGroup) (bytes : List UInt8) : Scanned :=
  scanFrom (fun _ b rest => (front b rest, ())) () bytes

/-- The text of a scan, with a replacement character for what means nothing. -/
def Scanned.lossy (s : Scanned) : String :=
  String.ofList (s.map fun c => c.getD Utf8.replacement)

/-- The text of a scan in which everything means something. -/
def Scanned.strict? (s : Scanned) : Option String := (s.mapM id).map String.ofList

end LivePage
