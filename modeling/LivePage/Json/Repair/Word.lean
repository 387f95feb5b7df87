/-
What may stand in a text that is almost JSON without being a quoted text:
comments, and the constants, which may be in any case.

* `dropComment`: what follows a comment;
* `constant?`: the constant that the text begins with.
-/
import LivePage.Json.Repair.Lookahead
import LivePage.Text.Letter
import LivePage.Value.Basic

namespace LivePage.Json.Repair

/-! ### Comments -/

/-- Drops everything up to the end of a block comment, and that end. -/
def dropBlock : Unread → Unread
  | '*' :: '/' :: rest => rest
  | _ :: rest => dropBlock rest
  | [] => []

/-- Drops a comment. One that runs to the end of its line also ends at a mark that closes
something. -/
def dropComment (within : List Context) (input : Unread) : Unread :=
  let ends (c : Char) : Bool := c == '\n' || c == '\r' ||
    (c == ']' && within.contains .array) || (c == '\x7d' && within.contains .memberValue) ||
    (c == ':' && within.contains .key)
  match input with
  | '#' :: rest => rest.dropWhile fun c => !ends c
  | '/' :: '/' :: rest => rest.dropWhile fun c => !ends c
  | '/' :: '*' :: rest => dropBlock rest
  | '/' :: rest => rest
  | input => input

def startsComment (c : Char) : Bool := c == '#' || c == '/'

/-! ### Constants -/

/-- What follows a word in any case, if the text begins with it. -/
def dropWord? : List Char → Unread → Option Unread
  | [], input => some input
  | w :: word, c :: rest => if c.toLower == w then dropWord? word rest else none
  | _ :: _, [] => none

/-- The constants by name. -/
def constants : List (String × Value) :=
  [("true", .bool true), ("false", .bool false), ("null", .null)]

/-- Whether a character goes on with a word in front of it. -/
def extendsWord (c : Char) : Bool := isLetterOrNumber c || c == '_' || isQuote c

/-- The constant that the text begins with, and what follows it. -/
def constant? (input : Unread) : Option (Value × Unread) :=
  constants.findSome? fun (word, v) =>
    match dropWord? word.toList input with
    | some rest => if rest.head?.any extendsWord then none else some (v, rest)
    | none => none

end LivePage.Json.Repair
