/-
Writing values as JSON text, in order and with nothing left to choice.

* `Json.compact`: text without space between tokens, in one of two number
  layouts for the whole value;
* `Json.compact?`: the same, unless an integer is too long to be written;
* `Json.indented`: text with one element or member a line.
-/
import LivePage.Double.Layout
import LivePage.Json.Error
import LivePage.Value.Depth

namespace LivePage.Json

/-! ### Texts -/

/-- A character inside a quoted text. Quotes, backslashes and control characters are
escaped. -/
def escapeChar (c : Char) : List Char :=
  match c with
  | '"' => ['\\', '"']
  | '\\' => ['\\', '\\']
  | '\n' => ['\\', 'n']
  | '\r' => ['\\', 'r']
  | '\t' => ['\\', 't']
  | '\x08' => ['\\', 'b']
  | '\x0c' => ['\\', 'f']
  | c =>
    if c.toNat < 0x20 then
      ['\\', 'u', '0', '0', Nat.digitChar (c.toNat / 16), Nat.digitChar (c.toNat % 16)]
    else [c]

/-- A text in quotes. -/
def quote (s : String) : List Char := '"' :: s.toList.flatMap escapeChar ++ ['"']

/-! ### Compact text -/

/-- The value of a plain value: a word, a number or a quoted text. -/
def writePlain (numbers : NumberLayout) : Value → List Char
  | .null => ['n', 'u', 'l', 'l']
  | .bool true => ['t', 'r', 'u', 'e']
  | .bool false => ['f', 'a', 'l', 's', 'e']
  | .int n => (toString n).toList
  | .num x => (x.write numbers).toList
  | .str s => quote s
  | .arr _ => ['[', ']']
  | .obj _ => ['\x7b', '\x7d']

section

variable (numbers : NumberLayout)

mutual

/-- The text of a value without space, and `rest` behind it. -/
def write (v : Value) (rest : List Char) : List Char :=
  match v with
  | .arr items => '[' :: writeItems items rest
  | .obj members => '\x7b' :: writeMembers members rest
  | v => writePlain numbers v ++ rest
  termination_by structural v

/-- The elements of an array and its closing bracket. -/
def writeItems (items : List Value) (rest : List Char) : List Char :=
  match items with
  | [] => ']' :: rest
  | v :: others =>
    write v (if others.isEmpty then writeItems others rest else ',' :: writeItems others rest)
  termination_by structural items

/-- The members of an object and its closing brace. -/
def writeMembers (members : List (String × Value)) (rest : List Char) : List Char :=
  match members with
  | [] => '\x7d' :: rest
  | (key, v) :: others =>
    quote key ++ ':' ::
      write v (if others.isEmpty then writeMembers others rest
        else ',' :: writeMembers others rest)
  termination_by structural members

end

end

/-- The deepest nesting that is written in the compact number layout. -/
def compactNesting : Nat := 254

mutual

/-- Whether every integer of a value fits into 64 bits, with or without a sign. -/
def fitsWords : Value → Bool
  | .int n => -0x8000000000000000 ≤ n && n < 0x10000000000000000
  | .arr items => itemsFitWords items
  | .obj members => membersFitWords members
  | _ => true
  termination_by structural v => v

def itemsFitWords : List Value → Bool
  | [] => true
  | v :: rest => fitsWords v && itemsFitWords rest
  termination_by structural items => items

def membersFitWords : List (String × Value) → Bool
  | [] => true
  | (_, v) :: rest => fitsWords v && membersFitWords rest
  termination_by structural members => members

end

/-- The number layout of compact text. A value with an integer wider than 64 bits, or nested
too deeply, is written in the layout of indented text throughout. -/
def compactLayout (v : Value) : NumberLayout :=
  if fitsWords v && v.nesting ≤ compactNesting then .compact else .pretty

/-- The compact text of a value. -/
def compact (v : Value) : String := String.ofList (write (compactLayout v) v [])

mutual

/-- Whether an integer of a value has more than `maxDigits` digits. -/
def hasHugeInteger : Value → Bool
  | .int n => Nat.pow 10 maxDigits ≤ n.natAbs
  | .arr items => itemsHaveHugeInteger items
  | .obj members => membersHaveHugeInteger members
  | _ => false
  termination_by structural v => v

def itemsHaveHugeInteger : List Value → Bool
  | [] => false
  | v :: rest => hasHugeInteger v || itemsHaveHugeInteger rest
  termination_by structural items => items

def membersHaveHugeInteger : List (String × Value) → Bool
  | [] => false
  | (_, v) :: rest => hasHugeInteger v || membersHaveHugeInteger rest
  termination_by structural members => members

end

/-- Why a value cannot be written. -/
inductive WriteError
  | hugeInteger
deriving DecidableEq

def WriteError.message : WriteError → String
  | .hugeInteger =>
    s!"Exceeds the limit ({maxDigits} digits) for integer string conversion; " ++
      "use sys.set_int_max_str_digits() to increase the limit"

/-- The compact text of a value whose integers are not too long to be written. -/
def compact? (v : Value) : Except WriteError String :=
  if hasHugeInteger v then .error .hugeInteger else .ok (compact v)

/-! ### Indented text -/

/-- A new line, indented by `level` steps of `width` spaces. -/
def newLine (width level : Nat) : List Char := '\n' :: List.replicate (width * level) ' '

section

variable (width : Nat)

mutual

/-- The text of a value whose container stands at indentation `level`, and `rest` behind
it. -/
def writeIndented (level : Nat) (v : Value) (rest : List Char) : List Char :=
  match v with
  | .arr items =>
    if items.isEmpty then '[' :: ']' :: rest
    else '[' :: writeIndentedItems level items (newLine width level ++ ']' :: rest)
  | .obj members =>
    if members.isEmpty then '\x7b' :: '\x7d' :: rest
    else '\x7b' :: writeIndentedMembers level members (newLine width level ++ '\x7d' :: rest)
  | v => writePlain .pretty v ++ rest
  termination_by structural v

def writeIndentedItems (level : Nat) (items : List Value) (rest : List Char) : List Char :=
  match items with
  | [] => rest
  | v :: others =>
    newLine width (level + 1) ++
      writeIndented (level + 1) v (if others.isEmpty then writeIndentedItems level others rest
        else ',' :: writeIndentedItems level others rest)
  termination_by structural items

def writeIndentedMembers (level : Nat) (members : List (String × Value)) (rest : List Char) :
    List Char :=
  match members with
  | [] => rest
  | (key, v) :: others =>
    newLine width (level + 1) ++ quote key ++ ':' :: ' ' ::
      writeIndented (level + 1) v (if others.isEmpty then writeIndentedMembers level others rest
        else ',' :: writeIndentedMembers level others rest)
  termination_by structural members

end

end

/-- The text of a value with one element or member a line, indented by `width` spaces a
level. -/
def indented (width : Nat) (v : Value) : String := String.ofList (writeIndented width 0 v [])

end LivePage.Json
