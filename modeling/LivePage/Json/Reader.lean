/-
Reading JSON text, over its bytes. Each function takes the bytes still
unread and returns those behind what it read, so the position of an error
is the length of the input less what is left.

* `Json.read`: the value of a text, or the first error in it;
* `Json.Dialect`: the strict grammar, and a wider one that has words for
  the doubles without digits.
-/
import LivePage.Json.Error
import LivePage.Text.Surrogate
import LivePage.Value.Basic

namespace LivePage.Json

/-- Which texts count as JSON: the standard ones, or also those with `NaN`, `Infinity` and
doubles beyond the range, which then are infinite. -/
inductive Dialect
  | strict
  | wide
deriving DecidableEq

/-- The most digits that an integer may have. Strict reading limits the length of its text, in
which a minus sign counts. -/
def Dialect.digitLimit (dialect : Dialect) (negative : Bool) : Nat :=
  match dialect, negative with
  | .strict, true => maxDigits - 1
  | _, _ => maxDigits

/-- The unread part of the input. -/
abbrev Rest := List UInt8

/-- The code of an ASCII character. -/
def code (c : Char) : UInt8 := c.toNat.toUInt8

def isSpace (b : UInt8) : Bool := b == 0x20 || b == 0x09 || b == 0x0A || b == 0x0D

def isDigit (b : UInt8) : Bool := 0x30 ≤ b && b ≤ 0x39

def skipSpace (input : Rest) : Rest := input.dropWhile isSpace

/-- Whether at most `n` bytes are left. -/
def atMost (n : Nat) (input : Rest) : Bool := (input.drop n).isEmpty

/-- The value of a hexadecimal digit. -/
def hexDigit? (b : UInt8) : Option Nat :=
  if isDigit b then some (b.toNat - 0x30)
  else if 0x41 ≤ b && b ≤ 0x46 then some (b.toNat - 0x41 + 10)
  else if 0x61 ≤ b && b ≤ 0x66 then some (b.toNat - 0x61 + 10)
  else none

/-- The number that decimal digits spell. -/
def digitsValue (digits : List UInt8) : Nat :=
  digits.foldl (fun n b => 10 * n + (b.toNat - 0x30)) 0

section

-- The length of the whole input, and the dialect it is read in.
variable (size : Nat) (dialect : Dialect)

/-- An error noticed with `left` still unread. -/
def malformed {α : Type} (what : Complaint) (left : Rest) : Except Error α :=
  .error (.malformed what (size - left.length))

/-! ### Texts -/

/-- Four hexadecimal digits. -/
def readHex (input : Rest) : Except Error (Nat × Rest) :=
  let rec go (count value : Nat) (input : Rest) : Except Error (Nat × Rest) :=
    match count, input with
    | 0, rest => .ok (value, rest)
    | _ + 1, [] => .error .truncated
    | count + 1, b :: rest =>
      match hexDigit? b with
      | some d => go count (16 * value + d) rest
      | none => malformed size .invalidHexDigit rest
  if atMost 3 input then .error .truncated else go 4 0 input

/-- The character of an escape, behind its `\u`. A character beyond the first plane takes
two escapes. -/
def readUnicodeEscape (input : Rest) : Except Error (Char × Rest) :=
  match readHex size input with
  | .error e => .error e
  | .ok (first, rest) =>
    if isLowSurrogate first then malformed size .invalidSurrogatePair rest
    else if isHighSurrogate first then
      if atMost 5 rest then .error .truncated
      else match rest with
        | 0x5C :: 0x75 :: digits =>
          match readHex size digits with
          | .error e => .error e
          | .ok (second, rest) =>
            if isLowSurrogate second then
              .ok (surrogatePair first second, rest)
            else malformed size .invalidSurrogatePair rest
        | _ => malformed size .unfinishedSurrogatePair rest
    else .ok (Char.ofNat first, rest)

/-- What a letter behind a backslash stands for. -/
def simpleEscape? (b : UInt8) : Option UInt8 :=
  match Char.ofNat b.toNat with
  | '"' => some 0x22
  | '\\' => some 0x5C
  | '/' => some 0x2F
  | 'b' => some 0x08
  | 'f' => some 0x0C
  | 'n' => some 0x0A
  | 'r' => some 0x0D
  | 't' => some 0x09
  | _ => none

/-- The content of a text behind its opening quote, with escapes resolved. The bytes read
so far are `done`, the last one first. -/
def readContent : Nat → List UInt8 → Rest → Except Error (List UInt8 × Rest)
  | 0, _, _ => .error .truncated
  | _, _, [] => .error .truncated
  | fuel + 1, done, b :: rest =>
    if b == 0x22 then .ok (done.reverse, rest)
    else if b == 0x5C then
      match rest with
      | [] => .error .truncated
      | e :: rest =>
        if e == 0x75 then
          match readUnicodeEscape size rest with
          | .error e => .error e
          | .ok (c, rest) =>
            readContent fuel ((String.utf8EncodeChar c).reverse ++ done) rest
        else match simpleEscape? e with
          | some b => readContent fuel (b :: done) rest
          | none => malformed size .invalidEscape rest
    else if b < 0x20 then malformed size .invalidCharacter (b :: rest)
    else readContent fuel (b :: done) rest

/-- A text behind its opening quote. -/
def readText (input : Rest) : Except Error (String × Rest) :=
  match readContent size (size + 1) [] input with
  | .error e => .error e
  | .ok (content, rest) =>
    match Utf8.decode content with
    | .ok text => .ok (text, rest)
    | .error part => .error (.illFormed part)

/-! ### Numbers and words -/

/-- At least one digit. -/
def readDigits (input : Rest) : Except Error (List UInt8 × Rest) :=
  let digits := input.takeWhile isDigit
  let rest := input.dropWhile isDigit
  if digits.isEmpty then malformed size .invalidNumber rest else .ok (digits, rest)

/-- The digits of a whole part: a lone zero, or digits that start with no zero. -/
def readWhole : Rest → Except Error (List UInt8 × Rest)
  | [] => malformed size .invalidNumber []
  | b :: rest =>
    if !isDigit b then malformed size .invalidCharacter (b :: rest)
    else if b == 0x30 then
      match rest with
      | d :: _ => if isDigit d then malformed size .invalidNumber rest else .ok ([b], rest)
      | [] => .ok ([b], rest)
    else .ok (b :: rest.takeWhile isDigit, rest.dropWhile isDigit)

/-- The digits behind a point, none when there is no point. -/
def readFraction (input : Rest) : Except Error (Option (List UInt8) × Rest) :=
  match input with
  | 0x2E :: rest => (readDigits size rest).map fun (digits, rest) => (some digits, rest)
  | _ => .ok (none, input)

/-- The power of ten behind an exponent mark, none when there is no mark. -/
def readExponent (input : Rest) : Except Error (Option Int × Rest) :=
  let signed (rest : Rest) : Bool × Rest :=
    match rest with
    | 0x2B :: rest => (false, rest)
    | 0x2D :: rest => (true, rest)
    | _ => (false, rest)
  match input with
  | b :: rest =>
    if b == 0x65 || b == 0x45 then
      let (negative, rest) := signed rest
      (readDigits size rest).map fun (digits, rest) =>
        let power : Int := digitsValue digits
        (some (if negative then -power else power), rest)
    else .ok (none, input)
  | [] => .ok (none, input)

/-- The number of a sign, a whole part, a fraction and an exponent. It is an integer when it
has neither of the last two. -/
def number (negative : Bool) (whole : List UInt8) (fraction : Option (List UInt8))
    (exponent : Option Int) : Except Error Value :=
  if fraction.isNone && exponent.isNone then
    if whole.length > dialect.digitLimit negative then .error (.integerOutOfRange whole.length [])
    else
      let n : Int := digitsValue whole
      .ok (.int (if negative then -n else n))
  else
    let places := fraction.getD []
    let x := Double.ofDecimal negative (digitsValue (whole ++ places))
      (exponent.getD 0 - places.length)
    if x.isInfinite && dialect == .strict then .error (.numberOutOfRange [])
    else .ok (.num x)

/-- A number behind its sign. -/
def readNumber (negative : Bool) (input : Rest) : Except Error (Value × Rest) :=
  match readWhole size input with
  | .error e => .error e
  | .ok (whole, rest) =>
    match readFraction size rest with
    | .error e => .error e
    | .ok (fraction, rest) =>
      match readExponent size rest with
      | .error e => .error e
      | .ok (exponent, rest) =>
        (number dialect negative whole fraction exponent).map fun v => (v, rest)

/-- The rest of a word behind its first letter. -/
def readWord (letters : List Char) (v : Value) (input : Rest) : Except Error (Value × Rest) :=
  let rest := input.drop letters.length
  let found := input.take letters.length
  if found == letters.map code then .ok (v, rest)
  else if found.length < letters.length then .error .truncated
  else malformed size .invalidCharacter rest

/-- A plain value: a word, a number or a text. -/
def readPlain (input : Rest) : Except Error (Value × Rest) :=
  match input with
  | [] => .error .truncated
  | b :: rest =>
    match Char.ofNat b.toNat with
    | 'n' => readWord size ['u', 'l', 'l'] .null rest
    | 't' => readWord size ['r', 'u', 'e'] (.bool true) rest
    | 'f' => readWord size ['a', 'l', 's', 'e'] (.bool false) rest
    | '"' => (readText size rest).map fun (s, rest) => (.str s, rest)
    | 'N' =>
      if dialect == .wide then readWord size ['a', 'N'] (.num (.nan 0)) rest
      else malformed size .invalidCharacter input
    | 'I' =>
      if dialect == .wide then
        readWord size "nfinity".toList (.num (.infinity false)) rest
      else malformed size .invalidCharacter input
    | '-' =>
      match dialect, rest with
      | .wide, 0x49 :: word => readWord size "nfinity".toList (.num (.infinity true)) word
      | _, _ => readNumber size dialect true rest
    | _ => if isDigit b then readNumber size dialect false input
      else malformed size .invalidCharacter input

/-! ### Containers -/

mutual

/-- A value, behind any space. -/
def readValue (fuel : Nat) (input : Rest) : Except Error (Value × Rest) :=
  match fuel with
  | 0 => .error .truncated
  | fuel + 1 =>
    match skipSpace input with
    | 0x5B :: rest =>
      match skipSpace rest with
      | [] => .error .truncated
      | 0x5D :: rest => .ok (.arr [], rest)
      | rest => readElements fuel 0 [] rest
    | 0x7B :: rest =>
      match skipSpace rest with
      | [] => .error .truncated
      | 0x7D :: rest => .ok (.obj [], rest)
      | rest => readMembers fuel [] rest
    | rest => readPlain size dialect rest

/-- The elements of an array from number `index` on, behind the elements `done` (the last
one first). -/
def readElements (fuel index : Nat) (done : List Value) (input : Rest) :
    Except Error (Value × Rest) :=
  match fuel with
  | 0 => .error .truncated
  | fuel + 1 =>
    match readValue fuel input with
    | .error e => .error (e.within (.element index))
    | .ok (v, rest) =>
      match skipSpace rest with
      | [] => .error .truncated
      | b :: rest =>
        if b == 0x5D then .ok (.arr (v :: done).reverse, rest)
        else if b == 0x2C then
          match skipSpace rest with
          | 0x5D :: rest => malformed size .trailingCommaInArray (0x5D :: rest)
          | rest => readElements fuel (index + 1) (v :: done) rest
        else malformed size .expectedCommaOrBracket (b :: rest)

/-- The members of an object, behind the members `done` (the last one first). -/
def readMembers (fuel : Nat) (done : Members Value) (input : Rest) :
    Except Error (Value × Rest) :=
  match fuel with
  | 0 => .error .truncated
  | fuel + 1 =>
    match input with
    | [] => .error .truncated
    | 0x22 :: rest =>
      match readText size rest with
      | .error e => .error e
      | .ok (key, rest) =>
        match skipSpace rest with
        | [] => .error .truncated
        | 0x3A :: rest =>
          match readValue fuel rest with
          | .error e => .error (e.within .member)
          | .ok (v, rest) =>
            match skipSpace rest with
            | [] => .error .truncated
            | b :: rest =>
              if b == 0x7D then .ok (.obj (Members.ofReverse ((key, v) :: done)), rest)
              else if b == 0x2C then
                match skipSpace rest with
                | 0x7D :: rest => malformed size .trailingCommaInObject (0x7D :: rest)
                | rest => readMembers fuel ((key, v) :: done) rest
              else malformed size .expectedCommaOrBrace (b :: rest)
        | rest => malformed size .expectedColon rest
    | rest => malformed size .keyNotText rest

end

end

/-- The value of a text. Between them, an array or object and each of its elements or members
take at least two bytes, so the steps of the reader are fewer than twice the bytes. -/
def read (dialect : Dialect) (input : List UInt8) : Except Error Value :=
  let size := input.length
  match readValue size dialect (2 * size + 2) input with
  | .error e => .error e
  | .ok (v, rest) =>
    match skipSpace rest with
    | [] => .ok v
    | _ :: rest => malformed size .trailingCharacters rest

end LivePage.Json
