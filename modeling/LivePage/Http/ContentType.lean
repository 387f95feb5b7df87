/-
Content types: what kind of text a body is, and parameters behind
semicolons. A value may stand in quotes, and a long one may be spread
over several numbered parameters, of which some are percent-encoded.

* `parameters`, `contents`: the parameters of a content type, and what they
  say;
* `charset?`: the character set that it asks for.
-/
import LivePage.Json.Error
import LivePage.Text.Blank
import LivePage.Text.Case
import LivePage.Text.Charset
import LivePage.Text.Digit

namespace LivePage.ContentType

/-- A parameter. The kind of text is one too, with the kind as its name. -/
structure Parameter where
  name : String
  value : String
deriving DecidableEq

/-! ### Quoted values -/

/-- The parts between semicolons outside quotes, behind the part `done` (the last character
first). A quote behind a backslash neither begins nor ends anything. -/
def splitParts (quoted : Bool) (done : List Char) : List Char → List (List Char)
  | [] => [done.reverse]
  | c :: rest =>
    if c == ';' && !quoted then done.reverse :: splitParts false [] rest
    else splitParts (quoted != (c == '"' && done.head? != some '\\')) (c :: done) rest

/-- Takes a backslash for two that stand together. -/
def halveBackslashes : List Char → List Char
  | '\\' :: '\\' :: rest => '\\' :: halveBackslashes rest
  | c :: rest => c :: halveBackslashes rest
  | [] => []

/-- Drops the backslashes in front of quotes. -/
def freeQuotes : List Char → List Char
  | '\\' :: '"' :: rest => '"' :: freeQuotes rest
  | c :: rest => c :: freeQuotes rest
  | [] => []

/-- What stands between two marks at the ends, if they are there. -/
def between? (opening closing : Char) (cs : List Char) : Option (List Char) :=
  if 1 < cs.length && cs.head? == some opening && cs.getLast? == some closing then
    some cs.tail.dropLast
  else none

/-- A value without the quotes or angle brackets around it. -/
def unquoted (cs : List Char) : List Char :=
  match between? '"' '"' cs with
  | some inner => freeQuotes (halveBackslashes inner)
  | none => (between? '<' '>' cs).getD cs

/-- The parameter that a part is: its name, and what stands behind the first equals sign. A name
in front of an equals sign is put in small letters. -/
def parameter (part : List Char) : Parameter :=
  let name := part.takeWhile (· != '=')
  let value := part.drop name.length
  let name := trim (String.ofList name)
  ⟨if value.isEmpty then name else lowerCase name,
    String.ofList (unquoted (trimmed isWhiteOrSeparator value.tail))⟩

/-- The parameters of a content type, in order. -/
def parameters (contentType : String) : List Parameter :=
  (splitParts false [] contentType.toList).map parameter

/-! ### Values in pieces -/

/-- Why a content type cannot be read. -/
inductive Fault
  /-- The number of a piece has too many digits. -/
  | hugeNumber (digits : Nat)
  /-- Pieces of one value cannot be put in order, of which some have a number and some have none.
  The first one that differs from those before it `isNumbered` or not. -/
  | mixedPieces (isNumbered : Bool)
  /-- A null character is in the name of a character set. -/
  | nullCharacter
deriving DecidableEq

/-- The kind of the numbers of pieces. -/
def numberKind (isNumbered : Bool) : String := if isNumbered then "int" else "NoneType"

def Fault.message : Fault → String
  | .hugeNumber digits => Json.hugeIntegerText digits
  | .mixedPieces isNumbered =>
    s!"'<' not supported between instances of '{numberKind isNumbered}' and " ++
      s!"'{numberKind !isNumbered}'"
  | .nullCharacter => "embedded null character"

/-- A piece of a value. -/
structure Piece where
  /-- The name of the whole. -/
  name : String
  number : Option Nat
  /-- Whether the piece is percent-encoded. -/
  encoded : Bool
  text : String

/-- The piece that a parameter is, if its name ends in an asterisk, or in an asterisk, a number
and perhaps another asterisk. -/
def Parameter.piece? (p : Parameter) : Except Fault (Option Piece) :=
  let isWord (c : Char) : Bool := c.isAlphanum || c == '_'
  let cs := p.name.toList
  let word := cs.takeWhile isWord
  if word.isEmpty then .ok none
  else match cs.drop word.length with
    | ['*'] => .ok (some ⟨String.ofList word, none, true, p.value⟩)
    | '*' :: number =>
      let digits := number.takeWhile Char.isDigit
      let rest := number.drop digits.length
      if digits.isEmpty || !(rest.isEmpty || rest == ['*']) then .ok none
      else if digits.length > Json.maxDigits then .error (.hugeNumber digits.length)
      else .ok (some ⟨String.ofList word, some (decimalValue digits), !rest.isEmpty, p.value⟩)
    | _ => .ok none

/-- Whether a piece may stand before another one: by number, and for equal numbers by text, an
encoded piece last. -/
def Piece.precedes (p q : Piece) : Bool :=
  let m := p.number.getD 0
  let n := q.number.getD 0
  m < n || (m == n && (p.text < q.text || (p.text == q.text && (!p.encoded || q.encoded))))

/-- Takes a character for each percent sign with two hexadecimal digits. -/
def percentDecoded : List Char → List Char
  | '%' :: a :: b :: rest =>
    match hexValue? a, hexValue? b with
    | some high, some low => Char.ofNat (16 * high + low) :: percentDecoded rest
    | _, _ => '%' :: percentDecoded (a :: b :: rest)
  | c :: rest => c :: percentDecoded rest
  | [] => []

/-- A value, perhaps with the name of the character set that its characters are bytes of. -/
structure Content where
  charset : Option String
  text : String

/-- The content of a value in front of which its character set and its language stand, with an
apostrophe behind each; fewer apostrophes are a part of the value. -/
def Content.ofTagged (cs : List Char) : Content :=
  match cs.splitOn '\'' with
  | charset :: _ :: value :: rest =>
    ⟨some (if charset.isEmpty then "ascii" else String.ofList charset),
      String.ofList (['\''].intercalate (value :: rest))⟩
  | _ => ⟨some "ascii", String.ofList cs⟩

/-- The content that some pieces are spread over. -/
def assembled (pieces : List Piece) : Except Fault Content :=
  let isNumbered (p : Piece) : Bool := p.number.isSome
  match pieces.find? fun p => some (isNumbered p) != pieces.head?.map isNumbered with
  | some p => .error (.mixedPieces (isNumbered p))
  | none =>
    let inOrder := pieces.mergeSort Piece.precedes
    let value := inOrder.flatMap fun p =>
      if p.encoded then percentDecoded p.text.toList else p.text.toList
    .ok (if inOrder.any (·.encoded) then .ofTagged value else ⟨none, String.ofList value⟩)

/-- The contents of the parameters by their names. A parameter that is whole comes before pieces,
and the first part is never a piece. -/
def contents (contentType : String) : Except Fault (List (String × Content)) := do
  let all := parameters contentType
  let found ← all.tail.mapM fun p => p.piece?.map fun piece => (p, piece)
  let whole := all.take 1 ++ (found.filter (·.2.isNone)).map (·.1)
  let pieces := found.filterMap (·.2)
  let spread ← (pieces.map (·.name)).eraseDups.mapM fun name =>
    (assembled (pieces.filter (·.name == name))).map fun content => (name, content)
  return whole.map (fun p => (p.name, ⟨none, p.value⟩)) ++ spread

/-! ### Character sets -/

/-- The character set of a name, which may not hold a null character. -/
def charsetNamed (name : String) : Except Fault (Option Charset) :=
  if name.toList.contains '\x00' then .error .nullCharacter else .ok (Charset.ofName? name)

/-- The bytes whose numbers the characters of a text have, if it has no others. -/
def octets? (s : String) : Option (List UInt8) :=
  s.toList.mapM fun c => if c.toNat < 0x100 then some c.toNat.toUInt8 else none

/-- The text of a content. Bytes that mean nothing in their character set are taken as they
are. -/
def Content.decoded (c : Content) : Except Fault String :=
  match c.charset with
  | none => .ok c.text
  | some name => do
    let some set ← charsetNamed name | return c.text
    return ((octets? c.text).bind set.strict?).getD c.text

/-- The character set that a content type asks for. A name that is not in ASCII does not count, and
neither does one that is not known. -/
def charset? (contentType : String) : Except Fault (Option Charset) := do
  let some (_, content) := (← contents contentType).find? fun c => lowerCase c.1 == "charset"
    | return none
  let name ← content.decoded
  if name.toList.all (·.toNat < 0x80) then charsetNamed name else return none

end LivePage.ContentType
