/-
Reading text that is almost JSON. A repair drops trailing commas, closes
what was left open, takes single quotes and bare keys for quoted ones, and
skips what stands between the members it recognises. Text without an
object or array has nothing to recover.

* `Json.repair`: the value of almost-JSON text;
* `Json.decode`: strict reading, with a repair when it is asked for and
  needed.
-/
import LivePage.Json.Reader
import LivePage.Json.Repair.Value

namespace LivePage.Json

/-- The value of almost-JSON text. Text that is JSON needs no repair; an integer of too many
digits in it cannot be repaired. -/
def repair (text : String) : Except RepairError Value :=
  match read .wide (Utf8.encode text) with
  | .ok v => .ok v
  | .error (.integerOutOfRange digits _) => .error (.hugeInteger digits)
  | .error _ =>
    match Repair.readLoosely text.toList with
    | .str "" => .error .nothingRecoverable
    | v => .ok v

/-- The value of JSON text in bytes. Text that is not JSON is repaired if `repairing`; text that is
not UTF-8 inside a quoted text never is. -/
def decodeBytes (repairing : Bool) (input : List UInt8) : Except DecodeError Value :=
  match read .strict input with
  | .ok v => .ok v
  | .error (.illFormed part) => .error (.illFormed part)
  | .error cause =>
    if repairing then
      match repair (Utf8.decodeLossy input) with
      | .ok v => .ok v
      | .error reason => .error (.unrepairable cause reason)
    else .error (.invalid cause)

/-- The value of JSON text. -/
def decode (repairing : Bool) (w : Writing) : Except DecodeError Value :=
  match w.encode with
  | .error cause => .error (.unencodable cause)
  | .ok input => decodeBytes repairing input

end LivePage.Json
