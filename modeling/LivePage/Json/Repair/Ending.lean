/-
Where a text ends that may lack a quote, or have quotes inside. A bare text
ends at a mark of the container that it stands in. Where a quoted one ends
is settled by what follows: the closing quote may be missing in front of a
comma or brace, and a quote may belong to the content.

* `memberFollows`, `missesQuote`: whether the closing quote is missing in
  front of a comma, or in front of a brace;
* `endsBefore`: whether a text ends in front of a character;
* `roleOfQuote`: what a quote inside a text is.
-/
import LivePage.Json.Repair.Content
import LivePage.Json.Repair.Word

namespace LivePage.Json.Repair

/-! ### Missing quotes -/

/-- Whether a bare key may contain a character. A hyphen cannot be its first one. -/
def isKeyChar (c : Char) : Bool := isLetterOrNumber c || c == '_'

/-- What follows a bare key and a colon. -/
def behindBareKey? (input : Unread) : Option Unread :=
  if !input.head?.any isKeyChar then none
  else match skipBlanks (input.dropWhile fun c => isKeyChar c || c == '-') with
    | ':' :: rest => some (skipBlanks rest)
    | _ => none

/-- Whether a value begins here that is no bare text. -/
def startsValue (input : Unread) : Bool :=
  input.head?.any (fun c => isQuote c || c.isDigit || c == '-' || c == '\x7b' || c == '[') ||
    constants.any fun (word, _) => (dropWord? word.toList input).isSome

/-- Whether behind a comma a member follows, or nothing more of the object. Behind a text with a
quote, a bare key counts only in front of a value that is no bare text. -/
def memberFollows (isBare : Bool) (input : Unread) : Bool :=
  match skipBlanks input with
  | [] => true
  | c :: rest =>
    if c == '\x7d' then true
    else if isQuote c then (behind? (if c == '“' then '”' else c) rest).any (nextIs [':'])
    else (behindBareKey? (c :: rest)).any fun rest => isBare || startsValue rest

/-- Whether the last brace of a content, given from the end, opens. -/
def lastBraceOpens (content : List Char) : Bool :=
  (content.find? fun c => c == '\x7b' || c == '\x7d') == some '\x7b'

/-- Whether the closing quote is missing in front of a brace that has `after` behind it. A closing
quote further on is the right one unless a key follows it. If none follows, the quote is missing
when there is a colon or nothing that could belong to the content. -/
def missesQuote (m : Manner) (content : List Char) (after : Unread) : Bool :=
  let mayMiss := after.head? != some '\\'
  match seek [m.closing] after with
  | [] =>
    if !(seek [':'] after).isEmpty then true
    else
      let more := skipBlanks after
      let brace := seek ['\x7d'] more
      mayMiss && more.length ≤ brace.length + 1 && (brace.isEmpty || !lastBraceOpens content)
  | _ :: rest =>
    let next := skipBlanks rest
    if next.isEmpty || nextIs [',', '\x7d'] next then false
    else match behind? m.opening next with
      | none => false
      | some next => mayMiss && (next.isEmpty || nextIs [':'] next)

/-- Whether a key ends at a colon that has `after` behind it: no quote follows, or a quoted
value does. -/
def missesKeyQuote (m : Manner) (after : Unread) : Bool :=
  match seek [m.opening] after with
  | [] => true
  | _ :: rest => (behind? m.closing rest).any (nextIs [',', '\x7d'])

/-- What stands around a block of code. -/
def fence : List Char := ['`', '`', '`']

/-- Whether a text ends in front of a character that is no closing quote. -/
def endsBefore (m : Manner) (content : Content) (c : Char) (after : Unread) : Bool :=
  (m.isBare && m.isIn .key && (c == ':' || isWhiteOrSeparator c)) ||
  (m.isBare && m.isIn .array && (c == ']' || c == ',')) ||
  (m.isIn .memberValue && c == ',' && memberFollows m.isBare after) ||
  (m.isIn .memberValue && c == '\x7d' &&
    ((skipBlanks after).isEmpty || fence.isPrefixOf (skipBlanks after) ||
      (!content.endsInQuote m && missesQuote m content.chars after))) ||
  (c == ']' && m.isBelow .array && !content.endsInQuote m && (seek [m.closing] after).isEmpty)

/-! ### Quotes inside a text -/

/-- What a quote inside a text is. -/
inductive QuoteRole
  | closes
  /-- It closes together with the quote behind it. -/
  | closesDoubled
  /-- It begins the next key, in front of which a bare text ends. -/
  | startsKey
  /-- It belongs to the content. It opens or closes a quotation there if `turns`. -/
  | belongs (turns : Bool)

/-- What is unread from the next quote on, or from a mark before it that may end the text, and
whether only blanks come before. A comma counts as such a mark in a member only if no letter
comes before it. The character in front is given too. -/
def nextMark (m : Manner) (before : Char) (onlyBlanks commaEnds : Bool) :
    Unread → Char × Bool × Unread
  | [] => (before, onlyBlanks, [])
  | c :: rest =>
    let commaEnds := commaEnds && !isLetter c
    if c == m.opening || c == m.closing ||
      (m.isBelow .key && (c == ':' || c == '\x7d')) ||
      (m.isBelow .memberValue && c == '\x7d') ||
      (m.isBelow .array && (c == ']' || c == ',')) ||
      (commaEnds && m.isIn .memberValue && c == ',') then (before, onlyBlanks, c :: rest)
    else nextMark m c (onlyBlanks && isWhiteOrSeparator c) commaEnds rest

/-- Whether a colon comes before the next mark that ends something, or quote. -/
def colonComes (closing before : Char) : Unread → Bool
  | [] => false
  | c :: rest =>
    if c == ':' then true
    else if c == ',' || c == ']' || c == '\x7d' || (c == closing && before != '\\') then false
    else colonComes closing c rest

/-- Whether a quote in a member belongs to the content, when `after` follows the next quote: a
comma and a key follow, or no key does. -/
def belongsInMember (m : Manner) (after : Unread) : QuoteRole :=
  let next := skipBlanks after
  let (isContent, start) :=
    match next with
    | ',' :: rest =>
      let key := (seek [m.opening] rest).drop 2
      let behindKey := skipBlanks ((seek [m.closing] key).drop 1)
      (nextIs [':'] behindKey, behindKey)
    | next => (false, next)
  if isContent then .belongs false
  else
    let last := seek [m.closing] (start.drop 1)
    if colonComes m.closing m.closing (last.drop 1) then .closes else .belongs true

/-- Whether an even number of quotes follows up to the end of an array, when `input` begins with
the first of them. -/
def evenlyQuoted (closing : Char) : Nat → Unread → Bool
  | 0, _ => false
  | fuel + 1, input =>
    let second := seek [closing, ']'] (input.drop 1)
    if second.head? != some closing then false
    else
      let third := seek [closing, ']'] (second.drop 1)
      if third.head? != some closing then true else evenlyQuoted closing fuel third

/-- What a closing quote inside a text is, when it has `after` behind it. Behind an open bracket
that something closes, it belongs to a member's text. -/
def roleOfQuote (m : Manner) (content : Content) (after : Unread) : QuoteRole :=
  if m.isIn .memberValue && content.hasOpenBracket && !(seek [']'] after).isEmpty then
    .belongs false
  else if m.isDoubled && nextIs [m.closing] after then .closesDoubled
  else if m.isBare && m.isIn .memberValue then
    match after.dropWhile fun c => c != m.opening && c != m.closing with
    | [] => .closes
    | _ :: rest => if nextIs [':'] (skipBlanks rest) then .startsKey else .closes
  else if content.isQuoting then .belongs true
  else
    let (before, onlyBlanks, mark) := nextMark m m.closing true true after
    match mark with
    | [] => .closes
    | c :: rest =>
      if c == ',' && m.isIn .memberValue then
        let next := skipBlanks ((seek [m.closing] rest).drop 1)
        if nextIs [',', '\x7d'] next then .belongs false else .closes
      else if c != m.closing || before == '\\' || onlyBlanks then .closes
      else if m.isIn .memberValue then belongsInMember m rest
      else if m.isIn .array then
        if evenlyQuoted m.closing rest.length mark then .belongs true else .closes
      else if m.isIn .key then .belongs false
      else .closes

end LivePage.Json.Repair
