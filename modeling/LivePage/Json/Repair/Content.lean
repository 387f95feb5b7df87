/-
The content of a text as it is gathered, character by character. Escapes
are resolved on the way, but a container that a member's text has in it is
taken over as it stands.

* `Manner`: how a text is written, and where;
* `Content`: what has been gathered;
* `Content.unescaped?`: the content behind an escape;
* `Content.withContainer?`, `Content.withComma`: the content behind a
  container, and behind a comma.
-/
import LivePage.Json.Repair.Lookahead
import LivePage.Text.Digit
import LivePage.Text.Surrogate

namespace LivePage.Json.Repair

/-- How a text is written, and where. -/
structure Manner where
  /-- The quotes around it. -/
  opening : Char
  closing : Char
  /-- Whether there is no opening quote. -/
  isBare : Bool
  /-- Whether there are two opening quotes. -/
  isDoubled : Bool
  /-- What the text stands in, from the inside out. -/
  within : List Context

namespace Manner

/-- Whether the text stands directly in a context. -/
def isIn (m : Manner) (context : Context) : Bool := m.within.head? == some context

/-- Whether the text stands in a context at any depth. -/
def isBelow (m : Manner) (context : Context) : Bool := m.within.contains context

end Manner

/-- The content of a text as far as it has been read. -/
structure Content where
  /-- The characters, the last one first. -/
  chars : List Char
  /-- Whether a quotation is open in the content. -/
  isQuoting : Bool

namespace Content

def empty : Content := ⟨[], false⟩

/-- Puts a character behind the content. -/
def push (content : Content) (c : Char) : Content :=
  { content with chars := c :: content.chars }

/-- Puts the part of a text in front of `rest` behind the content. -/
def pushUpTo (content : Content) (input rest : Unread) : Content :=
  { content with chars := (input.take (input.length - rest.length)).reverse ++ content.chars }

/-- Puts a quote behind the content. It opens or closes a quotation if `turns`. -/
def pushQuote (content : Content) (turns : Bool) (c : Char) : Content :=
  { content with chars := c :: content.chars, isQuoting := content.isQuoting != turns }

/-- Whether the last character is a closing quote. -/
def endsInQuote (m : Manner) (content : Content) : Bool := content.chars.head? == some m.closing

/-- Whether the first of two characters comes last in the content. -/
def endsInEither (first second : Char) (content : Content) : Bool :=
  (content.chars.find? fun c => c == first || c == second) == some first

/-- Whether a low quote waits for the closing quote that goes with it. -/
def isLow (m : Manner) (content : Content) : Bool := content.endsInEither '„' m.closing

/-- Whether a bracket is open in the content. -/
def hasOpenBracket (content : Content) : Bool := content.endsInEither '[' ']'

/-! ### Escapes -/

end Content

/-- The number that hexadecimal digits spell. -/
def hexNumber? (digits : List Char) : Option Nat :=
  digits.foldlM (fun n c => (hexValue? c).map fun d => 16 * n + d) 0

/-- The number behind `mark` and its digits, and what follows. -/
def numbered? (mark : Char) (digits : Nat) (input : Unread) : Option (Nat × Unread) :=
  match input with
  | c :: rest =>
    if c == mark && (rest.take digits).length == digits then
      (hexNumber? (rest.take digits)).map fun n => (n, rest.drop digits)
    else none
  | [] => none

/-- A character with a replacement for those that are no characters. -/
def charOrReplacement (n : Nat) : Char := if n.isValidChar then Char.ofNat n else '\uFFFD'

/-- The character of the number behind a backslash, and what follows. Two halves of a character
make it up together. -/
def numberedChar? (input : Unread) : Option (Char × Unread) :=
  match numbered? 'u' 4 input with
  | some (n, rest) =>
    let low := match rest with
      | '\\' :: rest => if isHighSurrogate n then numbered? 'u' 4 rest else none
      | _ => none
    match low with
    | some (k, rest') =>
      if isLowSurrogate k then some (surrogatePair n k, rest')
      else some (charOrReplacement n, rest)
    | none => some (charOrReplacement n, rest)
  | none => (numbered? 'x' 2 input).map fun (n, rest) => (charOrReplacement n, rest)

/-- What a letter behind a backslash stands for. -/
def escape? (closing c : Char) : Option Char :=
  if c == closing then some c
  else match c with
    | 'n' => some '\n'
    | 't' => some '\t'
    | 'r' => some '\r'
    | 'b' => some '\x08'
    | _ => none

namespace Content

/-- The content and what is unread behind some backslashes, of which there are at least two. They
stand for half as many, or for one if their number is odd. A closing quote behind them takes the
place of all of them, unless a low quote waits for it. -/
def pastBackslashes (m : Manner) (content : Content) (count : Nat) (rest : Unread) :
    Content × Unread :=
  let kept := if count % 2 == 0 then count / 2 else 1
  let halved := { content with chars := List.replicate kept '\\' ++ content.chars }
  match rest with
  | c :: after =>
    if c == m.closing && !content.isLow m then (content.push c, after) else (halved, rest)
  | [] => (halved, [])

/-- The content and what is unread behind an escape, if the text behind a backslash begins with
one. -/
def unescaped? (m : Manner) (content : Content) (input : Unread) : Option (Content × Unread) :=
  match input with
  | [] => none
  | c :: rest =>
    if c == '\\' then
      let more := (input.takeWhile (· == '\\')).length
      some (content.pastBackslashes m (more + 1) (input.drop more))
    else match escape? m.closing c with
      | some e => some (content.push e, rest)
      | none =>
        match numberedChar? input with
        | some (e, rest) => some (content.push e, rest)
        | none => if isQuote c then some (content.push c, rest) else none

/-! ### Containers -/

/-- The content and what is unread behind a container, if the text begins with one that has
neither closing quotes nor backslashes in it. -/
def withContainer? (m : Manner) (content : Content) (input : Unread) :
    Option (Content × Unread) :=
  let (rest, isClosed) := behindBrackets [] input
  let taken := input.take (input.length - rest.length)
  if isClosed && !taken.contains m.closing && !taken.contains '\\' then
    some (content.pushUpTo input rest, rest)
  else none

/-- The content and what is unread behind a comma, which the text begins with. Behind a comma in
a quoted text a container is taken over up to the first bracket that fits none in it, if what
closes the container comes at all. -/
def withComma (m : Manner) (content : Content) (input : Unread) : Content × Unread :=
  let next := skipBlanks (input.drop 1)
  let closer? := (next.head?.bind closerOf?).filter fun d => !(seek [d] next).isEmpty
  let rest := if m.isBare || closer?.isNone then input.drop 1 else (behindBrackets [] next).1
  (content.pushUpTo input rest, rest)

end Content

end LivePage.Json.Repair
