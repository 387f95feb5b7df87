/-
Styles as CSS text.

* `cssName`: the CSS name of a style property;
* `styleText`: a whole style;
* `styleText?`: the same, if no integer is too long.
-/
import LivePage.Text.Case
import LivePage.Value.Literal

namespace LivePage

/-- Puts a hyphen in front of every capital letter `A` to `Z`. -/
def hyphenated (cs : List Char) : List Char :=
  cs.flatMap fun c => if c.isUpper then ['-', c] else [c]

/-- A name in which the vendor `ms` in front of a capital begins with a capital itself. -/
def capitalVendor : List Char → List Char
  | 'm' :: 's' :: c :: rest =>
    if isUpperCase c then 'M' :: 's' :: c :: rest else 'm' :: 's' :: c :: rest
  | cs => cs

/-- The CSS name of a style property: `fontSize` is `font-size`. -/
def cssName (name : String) : String :=
  lowerCase (String.ofList (hyphenated (capitalVendor name.toList)))

/-- The properties whose numbers have no unit. -/
def unitless : List String :=
  ["opacity", "zIndex", "flex", "flexGrow", "flexShrink", "fontWeight", "lineHeight", "order"]

/-- Whether a value counts as a number in a style. -/
def isStyleNumber : Value → Bool
  | .bool _ | .int _ | .num _ => true
  | _ => false

/-- A double that is an integer as that integer, and other values as they are. -/
def integralValue : Value → Value
  | .num x => match x.toInt? with
    | some n => .int n
    | none => .num x
  | v => v

/-- The CSS value of a style property, however long its integers are. Numbers are pixels, unless
the property has no unit. -/
def cssValue (name : String) (v : Value) : String :=
  let shown := (integralValue v).display
  if isStyleNumber v && !unitless.contains name then shown ++ "px" else shown

/-- A style as CSS text, however long its integers are. -/
def styleText (style : Members Value) : String :=
  "; ".intercalate (style.map fun (name, v) => cssName name ++ ": " ++ cssValue name v)

/-- A style as CSS text, if its integers are not too long to be written. -/
def styleText? (style : Members Value) : Except Json.WriteError String :=
  if Json.hasHugeInteger (.obj style) then .error .hugeInteger else .ok (styleText style)

end LivePage
