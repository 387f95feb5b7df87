/-
Values in running text: quoted texts, `True` and `None`, and containers
with a space behind each comma. This is how a value shows in a message or
in an attribute.

* `quoted`: a text in quotes;
* `Value.literal`: a value as it stands inside a container;
* `Value.display`: a value by itself, where a text needs no quotes;
* `Value.literal?`, `Value.display?`: the same, if no integer is too long.
-/
import LivePage.Double.Layout
import LivePage.Json.Writer
import LivePage.Text.Printable
import LivePage.Value.Basic

namespace LivePage

/-- The last `count` hexadecimal digits of a number. -/
def hexDigits (count n : Nat) : List Char :=
  (List.range count).reverse.map fun place => Nat.digitChar (n / Nat.pow 16 place % 16)

/-- A character inside a text quoted by `mark`. What is not printable shows by its code, in
two, four or eight digits. -/
def quotedChar (mark c : Char) : List Char :=
  if c == mark || c == '\\' then ['\\', c]
  else if c == '\n' then ['\\', 'n']
  else if c == '\r' then ['\\', 'r']
  else if c == '\t' then ['\\', 't']
  else if isPrintable c then [c]
  else if c.toNat < 0x100 then '\\' :: 'x' :: hexDigits 2 c.toNat
  else if c.toNat < 0x10000 then '\\' :: 'u' :: hexDigits 4 c.toNat
  else '\\' :: 'U' :: hexDigits 8 c.toNat

/-- A text in single quotes, or in double quotes when that saves an escape. -/
def quotedChars (s : String) : List Char :=
  let cs := s.toList
  let mark := if cs.contains '\'' && !cs.contains '"' then '"' else '\''
  mark :: cs.flatMap (quotedChar mark) ++ [mark]

/-- A text in quotes. -/
def quoted (s : String) : String := String.ofList (quotedChars s)

namespace Value

mutual

/-- The characters of a value inside a container, and `rest` behind them. -/
def writeLiteral (v : Value) (rest : List Char) : List Char :=
  match v with
  | .null => 'N' :: 'o' :: 'n' :: 'e' :: rest
  | .bool true => 'T' :: 'r' :: 'u' :: 'e' :: rest
  | .bool false => 'F' :: 'a' :: 'l' :: 's' :: 'e' :: rest
  | .int n => (toString n).toList ++ rest
  | .num x => (x.write .plain).toList ++ rest
  | .str s => quotedChars s ++ rest
  | .arr items => '[' :: writeLiteralItems items rest
  | .obj members => '\x7b' :: writeLiteralMembers members rest
  termination_by structural v

def writeLiteralItems (items : List Value) (rest : List Char) : List Char :=
  match items with
  | [] => ']' :: rest
  | v :: others =>
    writeLiteral v (if others.isEmpty then writeLiteralItems others rest
      else ',' :: ' ' :: writeLiteralItems others rest)
  termination_by structural items

def writeLiteralMembers (members : List (String × Value)) (rest : List Char) : List Char :=
  match members with
  | [] => '\x7d' :: rest
  | (key, v) :: others =>
    quotedChars key ++ ':' :: ' ' ::
      writeLiteral v (if others.isEmpty then writeLiteralMembers others rest
        else ',' :: ' ' :: writeLiteralMembers others rest)
  termination_by structural members

end

/-- A value inside a container, however long its integers are. -/
def literal (v : Value) : String := String.ofList (v.writeLiteral [])

/-- A value by itself: a text as it is, and any other value as inside a container, however long
its integers are. -/
def display : Value → String
  | .str s => s
  | v => v.literal

/-- A value inside a container, if its integers are not too long to be written. -/
def literal? (v : Value) : Except Json.WriteError String :=
  if Json.hasHugeInteger v then .error .hugeInteger else .ok v.literal

/-- A value by itself, if its integers are not too long to be written. -/
def display? (v : Value) : Except Json.WriteError String :=
  if Json.hasHugeInteger v then .error .hugeInteger else .ok v.display

end Value

end LivePage
