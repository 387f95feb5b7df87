/-
Reading values as the parts of documents. All issues are collected, in the
order of the fields. Some fields have a second name, which counts only
when the first is missing; names that are not known are passed over.

* `Document.read`, `Action.read`, `Config.read`, `Binding.read`: reading a
  value as a part of a document.
-/
import LivePage.Document.Basic
import LivePage.Document.Issue

namespace LivePage

namespace Reading

variable {τ : Type}

/-! ### Plain values -/

def text (place : Location τ) : Value τ → Checked τ τ
  | .str s => .ok s
  | _ => .fail place .notText

/-- A number, rounded to a double. An integer beyond the range of doubles is none. -/
def double (place : Location τ) : Value τ → Checked τ Double
  | .num x => .ok x
  | .int n =>
    let x := Double.ofInt n
    if x.isInfinite then .fail place .notNumber else .ok x
  | _ => .fail place .notNumber

/-- The entries of an object, one after the other. -/
def entries {α : Type} (place : Location τ) (read : Location τ → Value τ → Checked τ α) :
    Members (Value τ) τ → Checked τ (Members α τ)
  | [] => .ok []
  | (key, v) :: rest =>
    (fun a others => (key, a) :: others) <$> read (place.field key) v <*> entries place read rest

/-- An object all of whose entries are alike. -/
def map {α : Type} (read : Location τ → Value τ → Checked τ α) (place : Location τ) :
    Value τ → Checked τ (Members α τ)
  | .obj ms => entries place read ms
  | _ => .fail place .notObject

def textMap (place : Location τ) (v : Value τ) : Checked τ (Members τ τ) := map text place v

variable [DecidableEq τ] [Textual τ]

/-- A word of a closed set. -/
def word (α : Type) [Vocabulary α] (place : Location τ) (v : Value τ) : Checked τ α :=
  match v.str?.bind (Vocabulary.ofText? α) with
  | some a => .ok a
  | none => .fail place (.notAmong (Vocabulary.words α))

/-! ### Fields -/

/-- A field that must be there. -/
def required {α : Type} (place : Location τ) (ms : Members (Value τ) τ) (key : String)
    (read : Location τ → Value τ → Checked τ α) : Checked τ α :=
  match ms.get? key with
  | some v => read (place.field key) v
  | none => .fail (place.field key) .missing

/-- A field that may be left out or null. -/
def optional {α : Type} (place : Location τ) (ms : Members (Value τ) τ) (key : String)
    (read : Location τ → Value τ → Checked τ α) : Checked τ (Field α) :=
  match ms.get? key with
  | none => .ok .absent
  | some .null => .ok .null
  | some v => (read (place.field key) v).map .given

/-- An optional field with a second name. -/
def optionalEither {α : Type} (place : Location τ) (ms : Members (Value τ) τ) (key other : String)
    (read : Location τ → Value τ → Checked τ α) : Checked τ (Field α) :=
  optional place ms (if ms.has key then key else other) read

/-! ### Bindings and payloads -/

/-- A path that may be null, which is the empty path. -/
def path (place : Location τ) : Value τ → Checked τ τ
  | .null => .ok ""
  | v => text place v

/-- The path of a binding, which is empty too when it is not there. -/
def bindingPath (place : Location τ) (ms : Members (Value τ) τ) : Checked τ τ :=
  match Members.get? ms "path" with
  | none => .ok ""
  | some v => path (place.field "path") v

def binding (place : Location τ) : Value τ → Checked τ (Binding τ)
  | .obj ms =>
    Binding.mk <$> required place ms "component" text <*> bindingPath place ms
  | _ => .fail place (.notRecord "Binding")

/-- A plain value, tried as each of the four types that it may have. -/
def scalar (place : Location τ) : Value τ → Checked τ (Scalar τ)
  | .null => .ok .null
  | .bool b => .ok (.bool b)
  | .int n => .ok (.int n)
  | .num x => .ok (.num x)
  | .str s => .ok (.str s)
  | _ => .issues [⟨place.field "str", .notText⟩, ⟨place.field "int", .notInteger⟩,
      ⟨place.field "float", .notNumber⟩, ⟨place.field "bool", .notBoolean⟩]

/-- An entry of a payload: an object is a binding, and anything else a literal. -/
def payloadEntry (place : Location τ) : Value τ → Checked τ (PayloadEntry (Scalar τ) τ)
  | .obj ms => (binding place (.obj ms)).map .bound
  | v => (scalar (place.field "value") v).map .literal

/-- The entries of a payload. The first one that cannot be read is the only one reported, and
its issues are placed in the payload as a whole. -/
def payloadEntries (place : Location τ) : Members (Value τ) τ → Checked τ (Payload (Scalar τ) τ)
  | [] => .ok []
  | (key, v) :: rest =>
    match payloadEntry place v with
    | .issues found => .issues found
    | .ok entry => (payloadEntries place rest).map fun others => (key, entry) :: others

def payload (place : Location τ) : Value τ → Checked τ (Payload (Scalar τ) τ)
  | .obj ms => payloadEntries place ms
  | _ => .fail place .notObject

/-! ### Actions and configurations -/

def action (place : Location τ) : Value τ → Checked τ (Action τ)
  | .obj ms =>
    Action.mk <$> required place ms "type" (word ActionKind) <*>
      optional place ms "endpoint" text <*>
      optional place ms "method" (word Method) <*>
      optional place ms "headers" textMap <*>
      optional place ms "payload" payload <*>
      optionalEither place ms "successMessage" "success_message" text <*>
      optionalEither place ms "errorMessage" "error_message" text
  | _ => .fail place (.notRecord "Action")

def config (place : Location τ) : Value τ → Checked τ (Config τ)
  | .obj ms =>
    Config.mk <$> optionalEither place ms "authToken" "auth_token" text <*>
      optional place ms "endpoints" textMap <*>
      optional place ms "headers" textMap
  | _ => .fail place (.notRecord "GlobalConfig")

/-! ### Components -/

def styleValue (place : Location τ) : Value τ → Checked τ (StyleValue τ)
  | .str s => .ok (.str s)
  | .int n => .ok (.int n)
  | .num x => .ok (.num x)
  | _ => .issues [⟨place.field "str", .notText⟩, ⟨place.field "int", .notInteger⟩,
      ⟨place.field "float", .notNumber⟩]

def attributes (place : Location τ) (ms : Members (Value τ) τ) : Checked τ (Attributes τ) :=
  Attributes.mk <$> required place ms "id" text <*>
    optional place ms "style" (map styleValue) <*>
    optionalEither place ms "className" "class_name" text

def arrangement (place : Location τ) (ms : Members (Value τ) τ) : Checked τ Arrangement :=
  Arrangement.mk <$> optional place ms "direction" (word Direction) <*>
    optional place ms "gap" double <*>
    optional place ms "align" (word Alignment)

def entry (place : Location τ) (ms : Members (Value τ) τ) : Checked τ (Entry τ) :=
  Entry.mk <$> optional place ms "placeholder" text <*>
    optional place ms "value" text <*>
    optional place ms "name" text

/-- The number of containers around a component from which on it is not read. -/
def containerLimit : Nat := 255

mutual

/-- A component with `around` containers around it. Its issues are placed behind its kind; a
component inside too many containers has one issue, and is not looked into. -/
def component (around : Nat) (place : Location τ) : Value τ → Checked τ (Component τ)
  | .obj ms =>
    match (Members.get? ms "type").bind fun v => v.str?.bind (Vocabulary.ofText? ComponentKind) with
    | none => .fail place (.notAmong (Vocabulary.words ComponentKind))
    | some kind =>
      let place := place.field (Vocabulary.text kind)
      if containerLimit ≤ around then .fail place .tooNested
      else
        match kind with
        | .container =>
          Component.container <$> attributes place ms <*> arrangement place ms <*>
            children (around + 1) (place.field "children") ms
        | .text => Component.text <$> attributes place ms <*> required place ms "text" text
        | .input => Component.input <$> attributes place ms <*> entry place ms
        | .button =>
          Component.button <$> attributes place ms <*> required place ms "text" text <*>
            optional place ms "action" action
  | _ => .fail place .notObject
  termination_by structural v => v

/-- The first member named `children`, which is at `place`. -/
def children (around : Nat) (place : Location τ) :
    List (τ × Value τ) → Checked τ (Field (List (Component τ)))
  | [] => .ok .absent
  | (key, v) :: rest =>
    if key == "children" then
      match v with
      | .null => .ok .null
      | .arr items => (components around place 0 items).map .given
      | _ => .fail place .notObject
    else children around place rest
  termination_by structural ms => ms

/-- A list of components from number `n` on. -/
def components (around : Nat) (place : Location τ) (n : Nat) :
    List (Value τ) → Checked τ (List (Component τ))
  | [] => .ok []
  | v :: rest =>
    (fun c others => c :: others) <$> component around (place.element n) v <*>
      components around place (n + 1) rest
  termination_by structural items => items

end

def componentList (around : Nat) (place : Location τ) : Value τ → Checked τ (List (Component τ))
  | .arr items => components around place 0 items
  | _ => .fail place .notObject

def document : Value τ → Checked τ (Document τ)
  | .obj ms =>
    Document.mk <$> optional [] ms "name" text <*>
      optional [] ms "version" text <*>
      optional [] ms "config" config <*>
      required [] ms "root" (component 0) <*>
      optional [] ms "components" (componentList 0)
  | _ => .fail [] (.notRecord "Document")

end Reading

variable {τ : Type} [DecidableEq τ] [Textual τ]

/-- Reads a value as a document. -/
def Document.read (v : Value τ) : Except (List (Issue τ)) (Document τ) :=
  (Reading.document v).toExcept

/-- Reads a value as an action. -/
def Action.read (v : Value τ) : Except (List (Issue τ)) (Action τ) :=
  (Reading.action [] v).toExcept

/-- Reads a value as a configuration. -/
def Config.read (v : Value τ) : Except (List (Issue τ)) (Config τ) :=
  (Reading.config [] v).toExcept

/-- Reads a value as a binding. -/
def Binding.read (v : Value τ) : Except (List (Issue τ)) (Binding τ) :=
  (Reading.binding [] v).toExcept

end LivePage
