/-
Looking ahead in text that is almost JSON. The text still unread is a list
of characters, and looking ahead gives the part of it behind a mark.

* `seek`: what is unread from the first mark of some kinds on;
* `behindBrackets`: what is unread behind a container;
* `Context`: what a repair is in the middle of.
-/
import LivePage.Text.Blank

namespace LivePage.Json.Repair

/-- The unread part of the text. -/
abbrev Unread := List Char

/-- What a repair is in the middle of, from the inside out. -/
inductive Context
  | key
  | memberValue
  | array
deriving DecidableEq

/-- The quotes that a text may begin with. -/
def quotes : List Char := ['"', '\'', '“', '”']

def isQuote (c : Char) : Bool := quotes.contains c

def skipBlanks (input : Unread) : Unread := input.dropWhile isWhiteOrSeparator

/-- Whether the next character is one of some marks. -/
def nextIs (marks : List Char) (input : Unread) : Bool := input.head?.any marks.contains

/-- What is unread from the first of some marks on, those behind an odd number of backslashes
passed over. Nothing is when there is none. -/
def seekFrom (marks : List Char) (escaped : Bool) : Unread → Unread
  | [] => []
  | c :: rest =>
    if c == '\\' then seekFrom marks (!escaped) rest
    else if marks.contains c && !escaped then c :: rest
    else seekFrom marks false rest

/-- What is unread from the first of some marks on that is not escaped. -/
def seek (marks : List Char) (input : Unread) : Unread := seekFrom marks false input

/-- What follows the first `mark`, without the blanks in front, if there is such a mark. -/
def behind? (mark : Char) (input : Unread) : Option Unread :=
  match seek [mark] input with
  | [] => none
  | _ :: rest => some (skipBlanks rest)

/-- What closes a bracket. -/
def closerOf? (c : Char) : Option Char :=
  if c == '\x7b' then some '\x7d' else if c == '[' then some ']' else none

/-- What is unread once all of some open brackets, and those that are opened meanwhile, are closed,
and that they are. Their closers are given from the inside out. It ends early in front of a
closer that is not the next one. -/
def behindBrackets (closers : List Char) : Unread → Unread × Bool
  | [] => ([], false)
  | c :: rest =>
    match closerOf? c with
    | some closer => behindBrackets (closer :: closers) rest
    | none =>
      if c != ']' && c != '\x7d' then behindBrackets closers rest
      else if closers == [c] then (rest, true)
      else if closers.head? == some c then behindBrackets closers.tail rest
      else (c :: rest, false)

end LivePage.Json.Repair
