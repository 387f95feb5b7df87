/-
Reading a text. A plain text between double quotes, in front of a mark that
may follow it, is taken as it stands. All others are read character by
character up to their end.

* `scan`: the content of a text;
* `readText`: a text, or one of the constants when it is bare.
-/
import LivePage.Json.Repair.Ending

namespace LivePage.Json.Repair

/-! ### Contents -/

/-- The content and what is unread behind a piece of a member's text that is taken over as it
stands, if the text begins with one. -/
def pastPiece? (m : Manner) (content : Content) (input : Unread) : Option (Content × Unread) :=
  if !m.isIn .memberValue then none
  else if nextIs ['\x7b', '['] input then content.withContainer? m input
  else if nextIs [','] input then some (content.withComma m input)
  else none

/-- The content of a text behind what has been read of it, and what is unread at its end: the
closing quote, or what the text ends in front of. -/
def scan (m : Manner) : Nat → Content → Unread → Content × Unread
  | 0, content, input => (content, input)
  | _, content, [] => (content, [])
  | fuel + 1, content, c :: rest =>
    if (c == m.closing && !content.isLow m) || endsBefore m content c rest then
      (content, c :: rest)
    else
      let piece := if c == '\\' then content.unescaped? m rest else pastPiece? m content (c :: rest)
      match piece with
      | some (content, rest) => scan m fuel content rest
      | none =>
        let content := content.push c
        match rest with
        | [] => (content, [])
        | d :: after =>
          if d == ':' && !m.isBare && m.isIn .key && missesKeyQuote m after then
            (content, rest)
          else if d == m.closing && !content.isLow m then
            match roleOfQuote m content after with
            | .closes => (content, rest)
            | .closesDoubled => (content, after)
            | .startsKey => (content, c :: rest)
            | .belongs turns => scan m fuel (content.pushQuote turns d) after
          else scan m fuel content rest

/-- A content, given from its end, without the blanks at its end. -/
def trimmedContent (content : List Char) : List Char := content.dropWhile isWhiteOrSeparator

/-- A text whose content has been read up to `input`. Blanks at its end go when it is bare, has no
closing quote, or ends in a line break. -/
def closeText (m : Manner) (content : List Char) (input : Unread) : String × Unread :=
  let (isClosed, rest) := match input with
    | c :: rest => if c == m.closing then (true, rest) else (false, c :: rest)
    | [] => (false, [])
  let content :=
    if !isClosed || m.isBare || content.head? == some '\n' then trimmedContent content else content
  (String.ofList content.reverse, rest)

/-- A text behind its opening quote, if it has one. A bare key in front of a blank must be
followed by a colon or comma. -/
def readContent (m : Manner) (input : Unread) : String × Unread :=
  let (content, rest) := scan m (input.length + 1) .empty input
  if m.isBare && m.isIn .key && rest.head?.any isWhiteOrSeparator then
    let rest := skipBlanks rest
    if nextIs [':', ','] rest then
      (String.ofList (trimmedContent content.chars).reverse, rest)
    else ("", rest)
  else closeText m content.chars rest

/-- A quoted text behind its opening quote, which may stand twice. -/
def readQuoted (opening closing : Char) (within : List Context) (input : Unread) :
    String × Unread :=
  let m : Manner := ⟨opening, closing, false, false, within⟩
  match input with
  | [] => readContent m []
  | c :: rest =>
    if c != opening then readContent m input
    else if (m.isIn .key && nextIs [':'] rest) ||
        (m.isIn .memberValue && nextIs [',', '\x7d'] rest) ||
        (m.isIn .array && nextIs [',', ']'] rest) then ("", rest)
    else if nextIs [opening] rest then ("", input)
    else if nextIs [closing] ((seek [closing] rest).drop 1) then
      readContent { m with isDoubled := true } rest
    else
      let next := skipBlanks rest
      if nextIs ('\x7b' :: '[' :: quotes) next then ("", rest)
      else if nextIs [',', ']', '\x7d'] next then readContent m input
      else readContent m rest

/-- Whether a text may end at the beginning of the input, given the context of the text. -/
def mayFollow (context : Option Context) (input : Unread) : Bool :=
  match context with
  | some .key => nextIs [':'] input
  | some .memberValue => input.isEmpty || nextIs [',', '\x7d'] input
  | some .array => input.isEmpty || nextIs [',', ']'] input
  | none => false

/-- A plain text between double quotes, and what follows it. It has no backslash or line break,
and what follows it must be what its context asks for. -/
def plainText? (within : List Context) (input : Unread) : Option (String × Unread) :=
  match input with
  | '"' :: rest =>
    let isPlain (c : Char) : Bool := c != '"' && c != '\\' && c != '\n' && c != '\r'
    match rest.dropWhile isPlain with
    | '"' :: after =>
      if mayFollow within.head? (skipBlanks after) then
        some (String.ofList (rest.takeWhile isPlain), after)
      else none
    | _ => none
  | _ => none

/-- Drops what cannot be the start of a text. -/
def dropDebris (input : Unread) : Unread :=
  input.dropWhile fun c => !isQuote c && !isLetterOrNumber c

/-- What is inside a block of JSON code that a quoted text begins with, if the block ends. -/
def fencedJson? (within : List Context) (input : Unread) : Option Unread :=
  if input.head?.any startsComment || (plainText? within input).isSome then none
  else
    let text := dropDebris input
    let inside := text.drop 8
    let begins := text.head?.any isQuote && (fence ++ "json".toList).isPrefixOf (text.drop 1)
    if begins && fence.isPrefixOf (seek ['`'] inside) then some inside else none

/-- A text that is not plain, or one of the constants when it is bare and no key. What stands in
front of it is passed over; a comment counts as the empty text. -/
def readRough (within : List Context) (input : Unread) : Value × Unread :=
  if input.head?.any startsComment then (.str "", dropComment within input)
  else
    match dropDebris input with
    | [] => (.str "", [])
    | c :: rest =>
      let quoted (opening closing : Char) : Value × Unread :=
        let (s, rest) := readQuoted opening closing within rest
        (.str s, rest)
      if c == '\'' then quoted '\'' '\''
      else if c == '“' then quoted '“' '”'
      else if isQuote c then quoted '"' '"'
      else
        match if within.head? == some .key then none else constant? (c :: rest) with
        | some found => found
        | none =>
          let (s, rest) := readContent ⟨'"', '"', true, false, within⟩ (c :: rest)
          (.str s, rest)

/-- A text, or one of the constants when it is bare and no key. -/
def readText (within : List Context) (input : Unread) : Value × Unread :=
  match plainText? within input with
  | some (s, rest) => (.str s, rest)
  | none => readRough within input

end LivePage.Json.Repair
