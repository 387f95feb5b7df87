/-
Reading values that are almost JSON. Commas, quotes, colons and closing
brackets may be missing, several values may stand one after the other, and
what cannot be the start of a value is passed over.

* `readNumber`: a number, or the text that begins like one;
* `readValue`, `readArray`, `readObject`: values and containers at a
  position;
* `readLoosely`: the value of a whole text.
-/
import LivePage.Double.Numeral
import LivePage.Json.Error
import LivePage.Json.Repair.Text
import LivePage.Value.Equality
import LivePage.Value.Literal

namespace LivePage.Json.Repair

/-- How far a repair has come. -/
structure Position where
  /-- What is still to be read. -/
  input : Unread
  /-- What the repair is in the middle of, from the inside out. -/
  within : List Context

namespace Position

/-- Drops characters. -/
def drop (n : Nat) (p : Position) : Position := { p with input := p.input.drop n }

/-- Drops blanks. -/
def skip (p : Position) : Position := { p with input := skipBlanks p.input }

/-- Enters a context. -/
def enter (context : Context) (p : Position) : Position :=
  { p with within := context :: p.within }

/-- Leaves the innermost context. -/
def leave (p : Position) : Position := { p with within := p.within.drop 1 }

def isBelow (context : Context) (p : Position) : Bool := p.within.contains context

end Position

/-! ### Numbers -/

/-- The number that some characters spell, or the characters as a text. -/
def numeralValue (cs : List Char) : Value :=
  let text := Value.str (String.ofList cs)
  if cs.contains ',' then text
  else if cs.any ['.', 'e', 'E'].contains then ((Double.ofChars? cs).map Value.num).getD text
  else
    let (negative, digits) := Double.splitSign cs
    if digits.isEmpty || !digits.all Char.isDigit || digits.length > maxDigits then text
    else .int (if negative then -(decimalValue digits : Int) else decimalValue digits)

def numberChars : List Char := "0123456789-+.eE/,_".toList

/-- A number, or the text that begins like one and goes on with a letter. Underscores do not
count, and a mark at the end is left unread. -/
def readNumber (within : List Context) (input : Unread) : Value × Unread :=
  let belongs (c : Char) : Bool :=
    numberChars.contains c && !(c == ',' && within.head? == some .array)
  let taken := (input.takeWhile belongs).length
  let numeral := (input.takeWhile belongs).filter (· != '_')
  if (input.drop taken).head?.any isLetter then readText within input
  else if numeral.getLast?.any ['-', 'e', 'E', '/', ',', '+'].contains then
    (numeralValue numeral.dropLast, input.drop (taken - 1))
  else (numeralValue numeral, input.drop taken)

/-! ### Values and containers -/

/-- Whether a value is a text or container without content. -/
def isHollow : Value → Bool
  | .str s => s.isEmpty
  | .arr items => items.isEmpty
  | .obj members => members.isEmpty
  | _ => false

/-- Whether three dots, which stand for elements left out, have been read between two
positions. -/
def isEllipsis (v : Value) (input rest : Unread) : Bool :=
  v.str? == some "..." && (input.drop (input.length - rest.length - 1)).head? == some '.'

/-- The rows of a table that some elements are, if those that are lists have one length, which is
not 0. Elements at the end that are no lists make up rows if their number is right. -/
def table? (items : List Value) : Option (List Value) :=
  let rows := items.filterMap fun
    | .arr row => some row.length
    | _ => none
  match rows with
  | 0 :: _ | [] => none
  | width :: others =>
    if others.any (· != width) then none
    else
      let isList : Value → Bool
        | .arr _ => true
        | _ => false
      let loose := (items.reverse.takeWhile fun v => !isList v).reverse
      if loose.length % width != 0 then some items
      else
        let count := loose.length / width
        some (items.take (items.length - loose.length) ++
          (List.range count).map fun n => .arr ((loose.drop (n * width)).take width))

/-- A list with the elements of a further list. A table gets another row, or more rows. -/
def extended (items more : List Value) : List Value :=
  match table? items with
  | some rows =>
    let isList : Value → Bool
      | .arr _ => true
      | _ => false
    if more.all isList then rows ++ more else rows ++ [.arr more]
  | none => match more with
    | [.arr more] => items ++ more
    | more => items ++ more

/-- The member that a further list goes on with: the last one, if it is a list with a name. -/
def openList? (done : Members Value) : Option (String × List Value) :=
  match done.getLast? with
  | some (name, .arr items) => if name.isEmpty then none else some (name, items)
  | _ => none

mutual

/-- The value at a position. Marks that cannot start one are passed over. Texts, numbers and arrays
in parentheses are values inside a container only. -/
def readValue (fuel : Nat) (p : Position) : Value × Position :=
  match fuel, p.input with
  | 0, _ => (.str "", p)
  | _, [] => (.str "", p)
  | fuel + 1, c :: _ =>
    let isInside := !p.within.isEmpty
    if c == '\x7b' then readObject fuel (p.drop 1)
    else if c == '[' then
      let (items, p) := readArray fuel ']' (p.drop 1)
      (.arr items, p)
    else if c == '(' && isInside then
      let (items, p) := readArray fuel ')' (p.drop 1)
      (.arr items, p)
    else if isInside && (isQuote c || isLetter c) then readTextOrCode fuel p
    else if isInside && (c.isDigit || c == '-' || c == '.') then
      let (v, rest) := readNumber p.within p.input
      (v, { p with input := rest })
    else if startsComment c then
      let p := { p with input := dropComment p.within p.input }
      if isInside then (.str "", p) else readValue fuel p
    else readValue fuel (p.drop 1)

/-- A text, or the value of a block of JSON code that it begins with. -/
def readTextOrCode (fuel : Nat) (p : Position) : Value × Position :=
  match fuel, fencedJson? p.within p.input with
  | fuel + 1, some inside => readValue fuel { p with input := inside }
  | _, _ =>
    let (v, rest) := readText p.within p.input
    (v, { p with input := rest })

/-- The elements of an array behind its opening bracket. -/
def readArray (fuel : Nat) (closer : Char) (p : Position) : List Value × Position :=
  match fuel with
  | 0 => ([], p)
  | fuel + 1 =>
    let (items, p) := readElements fuel closer [] (p.enter .array)
    (items, (p.drop 1).leave)

/-- The elements up to the closing bracket, a brace or the end, behind the elements `done` (the
last one first). A quoted text with a colon behind it is the first key of an object that lacks
its brace. -/
def readElements (fuel : Nat) (closer : Char) (done : List Value) (p : Position) :
    List Value × Position :=
  match fuel, p.input with
  | 0, _ => (done.reverse, p)
  | _, [] => (done.reverse, p)
  | fuel + 1, c :: rest =>
    if c == closer || c == '\x7d' then (done.reverse, p)
    else
      let goOn (done : List Value) (p : Position) : List Value × Position :=
        let isBetween (c : Char) : Bool := c == ',' || isWhiteOrSeparator c
        readElements fuel closer done { p with input := p.input.dropWhile isBetween }
      if !isQuote c && p.skip.input.head?.any startsComment then
        goOn done { p with input := dropComment p.within p.skip.input }
      else
        let (v, q) :=
          if isQuote c then
            if (behind? c rest).any (nextIs [':']) then readObject fuel p
            else readTextOrCode fuel p
          else readValue fuel p.skip
        if isHollow v && !nextIs [closer, ','] q.input then goOn done (q.drop 1)
        else if isEllipsis v p.input q.input then goOn done q
        else goOn (v :: done) q

/-- An object behind its opening brace. What has content but neither a member nor a colon is an
array. Quoted members behind an object that stands in nothing belong to it, and one more brace
behind an element is passed over. -/
def readObject (fuel : Nat) (p : Position) : Value × Position :=
  match fuel with
  | 0 => (.obj [], p)
  | fuel + 1 =>
    let (members, q, isClosed) := readMembers fuel [] p
    let size := p.input.length - q.input.length
    if members.isEmpty && size ≥ 2 && !(p.input.take size).contains ':' then
      let (items, q) := readArray fuel ']' { q with input := p.input }
      (.arr items, q)
    else
      let q := if isClosed then q.drop 1 else q
      if !q.within.isEmpty then
        let hasExtra := q.within.head? == some .array && nextIs ['\x7d'] q.input
        (.obj members, if hasExtra then q.drop 1 else q)
      else
        let q := q.skip
        if !nextIs [','] q.input then (.obj members, q)
        else
          let q := (q.drop 1).skip
          if !nextIs quotes q.input then (.obj members, q)
          else match readObject fuel q with
            | (.obj others, q) => (.obj (Members.putAll members others), q)
            | (_, q) => (.obj members, q)

/-- The members up to a closing brace or the end, behind the members `done`, and whether there
is a brace to close them. In an array, a closing bracket ends the members too, and a key that is
there already begins another object. -/
def readMembers (fuel : Nat) (done : Members Value) (p : Position) :
    Members Value × Position × Bool :=
  match fuel with
  | 0 => (done, p, false)
  | fuel + 1 =>
    if p.input.isEmpty || nextIs ['\x7d'] p.input then (done, p, true)
    else
      let p := p.skip
      let p := if nextIs [':'] p.input then p.drop 1 else p
      let (key, start, done, p) := readKey fuel p.input done (p.enter .key)
      if p.isBelow .array && done.has key then
        (done, { p with input := '\x7b' :: start }, false)
      else
        let p := p.skip
        if p.input.isEmpty || nextIs ['\x7d'] p.input then (done, p, true)
        else
          let p := ((p.drop 1).leave.enter .memberValue).skip
          let (v, p) :=
            if nextIs [',', '\x7d'] p.input then (Value.str "", p) else readValue fuel p
          let p := p.leave
          let done := done.put key v
          if nextIs [',', '\'', '"'] p.input then readMembers fuel done (p.drop 1).skip
          else if nextIs [']'] p.input && p.isBelow .array then (done, p, false)
          else readMembers fuel done p.skip

/-- The next key, what is unread from its start on, and the members `done`, the last of which
takes the elements of lists in front of the key. A key without content counts only in front of a
colon or brace, or at the end: it starts at the last one then, which is `start`. -/
def readKey (fuel : Nat) (start : Unread) (done : Members Value) (p : Position) :
    String × Unread × Members Value × Position :=
  match fuel, p.input with
  | 0, _ => ("", start, done, p)
  | _, [] => ("", start, done, p)
  | fuel + 1, c :: _ =>
    match if c == '[' then openList? done else none with
    | some (name, items) =>
      let (more, q) := readArray fuel ']' (p.drop 1)
      let q := q.skip
      let q := if nextIs [','] q.input then q.drop 1 else q
      readKey fuel p.input (done.put name (.arr (extended items more))) q.skip
    | none =>
      let (v, q) := readTextOrCode fuel p
      let key := v.display
      let q := if key.isEmpty then q.skip else q
      if !key.isEmpty || nextIs [':', '\x7d'] q.input then (key, p.input, done, q)
      else readKey fuel p.input done q

end

/-! ### Whole texts -/

/-- The value at a position, with as many steps as reading it can take. -/
def readNext (p : Position) : Value × Position := readValue (8 * p.input.length + 16) p

/-- The values that stand one after the other, the last one first, behind the values `done`. Of
two neighbours of one shape, and of a value that does not count and its successor, only the
second stays. -/
def readFurther (fuel : Nat) (done : List Value) (p : Position) : List Value :=
  match fuel with
  | 0 => done
  | fuel + 1 =>
    if p.input.isEmpty then done
    else
      let (v, p) := readNext p.leave
      if !v.isTruthy then readFurther fuel done (p.drop 1)
      else match done with
        | last :: others =>
          if last.sameShape v || !last.isTruthy then readFurther fuel (v :: others) p
          else readFurther fuel (v :: done) p
        | [] => readFurther fuel [v] p

/-- The value of a whole text: the only one that stands in it, or the list of several. It is the
empty text if there is none. -/
def readLoosely (text : List Char) : Value :=
  let (v, p) := readNext ⟨text, []⟩
  match readFurther (2 * text.length + 2) [v] p with
  | [v] => v
  | vs => .arr vs.reverse

end LivePage.Json.Repair
