/-
The closed sets of words in documents, each with its words in the order in
which messages list them.

* `ComponentKind`, `ActionKind`, `Method`, `Direction`, `Alignment`: the
  sets;
* `Vocabulary.ofText?`: the member that a word names.
-/
import LivePage.Text.Textual

namespace LivePage

/-- A closed set of words. -/
class Vocabulary (α : Type) where
  all : List α
  text : α → String

/-- The member that a word names. -/
def Vocabulary.ofText? {τ : Type} [DecidableEq τ] [Textual τ] (α : Type) [Vocabulary α]
    (word : τ) : Option α :=
  (Vocabulary.all (α := α)).find? fun a => Vocabulary.text a == word

/-- The words of a set. -/
def Vocabulary.words (α : Type) [Vocabulary α] : List String :=
  (Vocabulary.all (α := α)).map Vocabulary.text

inductive ComponentKind
  | container
  | text
  | input
  | button
deriving DecidableEq

instance : Vocabulary ComponentKind where
  all := [.container, .text, .input, .button]
  text
    | .container => "container"
    | .text => "text"
    | .input => "input"
    | .button => "button"

inductive ActionKind
  | log
  | apiCall
deriving DecidableEq

instance : Vocabulary ActionKind where
  all := [.log, .apiCall]
  text
    | .log => "log"
    | .apiCall => "api_call"

inductive Method
  | get
  | post
  | put
  | patch
  | delete
deriving DecidableEq

instance : Vocabulary Method where
  all := [.get, .post, .put, .patch, .delete]
  text
    | .get => "GET"
    | .post => "POST"
    | .put => "PUT"
    | .patch => "PATCH"
    | .delete => "DELETE"

inductive Direction
  | row
  | column
deriving DecidableEq

instance : Vocabulary Direction where
  all := [.row, .column]
  text
    | .row => "row"
    | .column => "column"

inductive Alignment
  | start
  | center
  | finish
  | between
deriving DecidableEq

instance : Vocabulary Alignment where
  all := [.start, .center, .finish, .between]
  text
    | .start => "start"
    | .center => "center"
    | .finish => "end"
    | .between => "between"

end LivePage
