/-
Documents as values. The fields that were given or null are written in a
fixed order under their names in documents, and those that were left out
are not. The entries of maps are written under their names as names.

* `Document.toValue`: the value of a document.
-/
import LivePage.Document.Basic

namespace LivePage

open Textual (lit)

variable {τ : Type} [Textual τ]

/-- The members that a field contributes: none when it was left out. -/
def Field.toMembers {α : Type} (key : String) (write : α → Value τ) :
    Field α → Members (Value τ) τ
  | .absent => []
  | .null => [(key, .null)]
  | .given value => [(key, write value)]

/-- The value of a word. -/
def wordValue {α : Type} [Vocabulary α] (a : α) : Value τ := .str (Vocabulary.text a)

def Binding.toValue (b : Binding τ) : Value τ :=
  .obj [("component", .str b.component), ("path", .str b.path)]

def PayloadEntry.toValue : PayloadEntry (Scalar τ) τ → Value τ
  | .literal value => value.toValue
  | .bound binding => binding.toValue

variable [DecidableEq τ]

/-- The value of a map, of which `write` writes the entries. -/
def mapValue {α : Type} (write : α → Value τ) (entries : Members α τ) : Value τ :=
  .obj ((entries.renamed Textual.asName).mapValues write)

/-- The value of a map of texts. -/
def textMapValue (texts : Members τ τ) : Value τ := mapValue .str texts

def Payload.toValue (payload : Payload (Scalar τ) τ) : Value τ :=
  mapValue PayloadEntry.toValue payload

def Action.toValue (a : Action τ) : Value τ :=
  .obj ((lit "type", wordValue a.kind) ::
    a.endpoint.toMembers "endpoint" .str ++
    a.method.toMembers "method" wordValue ++
    a.headers.toMembers "headers" textMapValue ++
    a.payload.toMembers "payload" Payload.toValue ++
    a.successMessage.toMembers "successMessage" .str ++
    a.errorMessage.toMembers "errorMessage" .str)

/-- The members that all components begin with. -/
def Attributes.toMembers (attributes : Attributes τ) (kind : ComponentKind) :
    Members (Value τ) τ :=
  (lit "id", .str attributes.id) ::
    attributes.style.toMembers "style" (mapValue StyleValue.toValue) ++
    attributes.className.toMembers "className" .str ++
    [(lit "type", wordValue kind)]

def Arrangement.toMembers (arrangement : Arrangement) : Members (Value τ) τ :=
  arrangement.direction.toMembers "direction" wordValue ++
    arrangement.gap.toMembers "gap" .num ++
    arrangement.align.toMembers "align" wordValue

def Entry.toMembers (entry : Entry τ) : Members (Value τ) τ :=
  entry.placeholder.toMembers "placeholder" .str ++
    entry.value.toMembers "value" .str ++
    entry.name.toMembers "name" .str

mutual

def Component.toValue : Component τ → Value τ
  | .container attributes arrangement .absent =>
    .obj (attributes.toMembers .container ++ arrangement.toMembers)
  | .container attributes arrangement .null =>
    .obj (attributes.toMembers .container ++ arrangement.toMembers ++ [(lit "children", .null)])
  | .container attributes arrangement (.given children) =>
    .obj (attributes.toMembers .container ++ arrangement.toMembers ++
      [(lit "children", .arr (Component.valuesOf children))])
  | .text attributes content => .obj (attributes.toMembers .text ++ [(lit "text", .str content)])
  | .input attributes entry => .obj (attributes.toMembers .input ++ entry.toMembers)
  | .button attributes content action =>
    .obj (attributes.toMembers .button ++ (lit "text", .str content) ::
      action.toMembers "action" Action.toValue)
  termination_by structural c => c

/-- The values of components, in order. -/
def Component.valuesOf : List (Component τ) → List (Value τ)
  | [] => []
  | c :: rest => c.toValue :: Component.valuesOf rest
  termination_by structural cs => cs

end

def Config.toValue (config : Config τ) : Value τ :=
  .obj (config.authToken.toMembers "authToken" .str ++
    config.endpoints.toMembers "endpoints" textMapValue ++
    config.headers.toMembers "headers" textMapValue)

def Document.toValue (d : Document τ) : Value τ :=
  .obj (d.name.toMembers "name" .str ++
    d.version.toMembers "version" .str ++
    d.config.toMembers "config" Config.toValue ++
    (lit "root", d.root.toValue) ::
    d.components.toMembers "components" (fun cs => .arr (Component.valuesOf cs)))

end LivePage
