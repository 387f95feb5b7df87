/-
Settings, from named arguments and from variables of the environment. A
setting takes its value from the argument of its name, else from its
variable, else from the defaults; values of another type are converted
where nothing is lost.

* `Settings.read`: the settings of some arguments and variables, or every
  issue with them;
* `Settings.numericLevel`: the log level as a number.
-/
import LivePage.Document.Issue
import LivePage.Double.Numeral
import LivePage.Text.Case
import LivePage.Value.Basic

namespace LivePage

structure Settings where
  /-- How long a request may take, in seconds. -/
  httpTimeout : Double
  maxDocumentSize : Nat
  maxDocumentDepth : Nat
  repairJson : Bool
  enableCache : Bool
  cacheSize : Nat
  logLevel : String
  jsonLogs : Bool

namespace Settings

def default : Settings where
  httpTimeout := .ofInt 10
  maxDocumentSize := 512 * 1024
  maxDocumentDepth := 100
  repairJson := false
  enableCache := true
  cacheSize := 64
  logLevel := "INFO"
  jsonLogs := false

/-! ### Numbers from texts -/

/-- Whether no two underscores meet. -/
def singleUnderscores : List Char → Bool
  | '_' :: '_' :: _ => false
  | _ :: rest => singleUnderscores rest
  | [] => true

/-- Drops single underscores between other characters, and refuses all others. -/
def dropUnderscores? (cs : List Char) : Option (List Char) :=
  if cs.head? == some '_' || cs.getLast? == some '_' || !singleUnderscores cs then none
  else some (cs.filter (· != '_'))

/-- Drops a point that has zeros behind it, and nothing else. -/
def dropZeroPlaces (cs : List Char) : List Char :=
  match cs.dropWhile (· != '.') with
  | '.' :: '0' :: places => if places.all (· == '0') then cs.takeWhile (· != '.') else cs
  | _ => cs

/-- Whether a text begins with a minus sign, and what stands behind its sign. No minus sign may
follow a plus sign. -/
def splitSign? : List Char → Option (Bool × List Char)
  | '+' :: '-' :: _ => none
  | '+' :: rest => some (false, rest)
  | '-' :: rest => some (true, rest)
  | cs => some (false, cs)

/-- Drops zeros in front, and any underscores among them. The last of these stays when nothing
but places follows. Behind the zeros, or without them, a digit or a minus sign must come. -/
def dropLeadingZeros? (cs : List Char) : Option (List Char) :=
  let isFiller (c : Char) : Bool := c == '0' || c == '_'
  let filler := if cs.head? == some '0' then cs.takeWhile isFiller else []
  match filler.getLast?, cs.drop filler.length with
  | some last, [] => some [last]
  | some last, '.' :: rest => some (last :: '.' :: rest)
  | _, c :: rest => if c.isDigit && c != '0' || c == '-' then some (c :: rest) else none
  | none, [] => none

/-- The most digits that an integer may be spelled with. -/
def maxIntegerDigits : Nat := 4300

/-- The number that digits spell, of which the first is a zero only if it is the only one. -/
def canonicalNatural? (cs : List Char) : Option Nat :=
  let hasFiller := cs.head? == some '0' && cs != ['0']
  if cs.isEmpty || !cs.all Char.isDigit || hasFiller || cs.length > maxIntegerDigits then none
  else some (decimalValue cs)

/-- The integer that a text spells: digits with perhaps a sign, zeros in front, underscores
between digits, and zeros behind a point. A minus sign may also stand behind zeros. -/
def integerOfText? (s : String) : Option Int := do
  let (negative, cs) ← splitSign? (trimWhite s).toList
  let cs ← dropLeadingZeros? cs
  let cs ← dropUnderscores? (dropZeroPlaces cs)
  match negative, cs with
  | false, '-' :: cs => (canonicalNatural? cs).map fun n => -(n : Int)
  | negative, cs => (canonicalNatural? cs).map fun n => if negative then -(n : Int) else n

/-- The double that a text spells. There may be either blanks around it or single underscores
inside it. -/
def doubleOfText? (s : String) : Option Double :=
  match Double.ofChars? (trimWhite s).toList with
  | some x => some x
  | none => (dropUnderscores? s.toList).bind Double.ofChars?

/-- The boolean that a word stands for, in any case. -/
def boolOfWord? (s : String) : Option Bool :=
  let word := String.ofList (s.toList.map Char.toLower)
  if ["0", "off", "f", "false", "n", "no"].contains word then some false
  else if ["1", "on", "t", "true", "y", "yes"].contains word then some true
  else none

/-! ### Conversions -/

/-- A mismatch, or a value. -/
abbrev Conversion (α : Type) := Value → Except Mismatch α

def toDouble : Conversion Double
  | .num x => .ok x
  | .int n =>
    let x := Double.ofInt n
    if x.isInfinite then .error .notNumber else .ok x
  | .bool b => .ok (.ofInt (if b then 1 else 0))
  | .str s => match doubleOfText? s with
    | some x => .ok x
    | none => .error .unreadableNumber
  | _ => .error .notNumber

/-- Whether an integer has 64 bits. -/
def isWord (n : Int) : Bool := -0x8000000000000000 ≤ n && n < 0x8000000000000000

/-- The integer that a double is. It must be smaller than the outermost integers of 64 bits. -/
def integerOfDouble (x : Double) : Except Mismatch Int :=
  if !x.isFinite then .error .notFinite
  else match x.toInt? with
    | some n => if n.natAbs < 0x8000000000000000 then .ok n else .error .oversizedInteger
    | none => .error .fractional

def toInteger : Conversion Int
  | .int n => .ok n
  | .bool b => .ok (if b then 1 else 0)
  | .num x => integerOfDouble x
  | .str s => match integerOfText? s with
    | some n => .ok n
    | none => .error .unreadableInteger
  | _ => .error .notInteger

/-- The boolean that an integer stands for. -/
def boolOfInteger (n : Int) : Except Mismatch Bool :=
  if n == 0 then .ok false else if n == 1 then .ok true else .error .unreadableBoolean

def toBoolean : Conversion Bool
  | .bool b => .ok b
  | .int n => if isWord n then boolOfInteger n else .error .notBoolean
  | .num x => match integerOfDouble x with
    | .ok n => boolOfInteger n
    | .error _ => .error .notBoolean
  | .str s => match boolOfWord? s with
    | some b => .ok b
    | none => .error .unreadableBoolean
  | _ => .error .notBoolean

def toText : Conversion String
  | .str s => .ok s
  | _ => .error .notText

/-- A double above zero. -/
def toPositiveDouble : Conversion Double := fun v =>
  match toDouble v with
  | .ok x => if x.isPositive then .ok x else .error .notPositive
  | .error mismatch => .error mismatch

/-- An integer above zero. -/
def toPositive : Conversion Nat := fun v =>
  match toInteger v with
  | .ok n => if 0 < n then .ok n.toNat else .error .notPositive
  | .error mismatch => .error mismatch

/-! ### Sources -/

/-- What the names of all variables begin with. -/
def variableStem : String := "ui_"

/-- The value given for a setting: its argument, else its variable. Names may be in any case. Of
several such arguments the first one counts, of several such variables the last one. -/
def given? (args : Members Value) (environment : Members String) (name : String) :
    Option Value :=
  match args.find? fun (key, _) => lowerCase key == name with
  | some (_, v) => some v
  | none =>
    (environment.reverse.find? fun (key, _) => lowerCase key == variableStem ++ name).map
      fun (_, s) => .str s

/-- A setting, which has its default value when none is given. -/
def setting {α : Type} (args : Members Value) (environment : Members String) (name : String)
    (fallback : α) (convert : Conversion α) : Checked String α :=
  match given? args environment name with
  | none => .ok fallback
  | some v => match convert v with
    | .ok a => .ok a
    | .error mismatch => .fail [.name name] mismatch

/-- The settings of some arguments and variables. Unknown names are passed over. -/
def read (args : Members Value) (environment : Members String) : Except (List Issue) Settings :=
  let take {α : Type} (name : String) (fallback : α) (convert : Conversion α) :=
    setting args environment name fallback convert
  Checked.toExcept <|
    Settings.mk <$> take "http_timeout" default.httpTimeout toPositiveDouble <*>
      take "max_document_size" default.maxDocumentSize toPositive <*>
      take "max_document_depth" default.maxDocumentDepth toPositive <*>
      take "repair_json" default.repairJson toBoolean <*>
      take "enable_cache" default.enableCache toBoolean <*>
      take "cache_size" default.cacheSize toPositive <*>
      take "log_level" default.logLevel toText <*>
      take "json_logs" default.jsonLogs toBoolean

/-! ### Log levels -/

/-- The upper case of the letters that level names may be written in. -/
def upperLetter (c : Char) : Char :=
  if c == 'ı' then 'I' else if c == 'ſ' then 'S' else c.toUpper

/-- A word that does not name a log level but something else that is known under it. -/
inductive LevelError
  /-- A format of log lines. -/
  | format
  /-- The table of all styles of formats. -/
  | styles
deriving DecidableEq

def LevelError.message : LevelError → String
  | .format => "Unknown level: '%(levelname)s:%(name)s:%(message)s'"
  | .styles => "Level not an integer or a valid string: " ++
      "\x7b'%': (<class 'logging.PercentStyle'>, '%(levelname)s:%(name)s:%(message)s'), " ++
      "'\x7b': (<class 'logging.StrFormatStyle'>, " ++
      "'\x7blevelname\x7d:\x7bname\x7d:\x7bmessage\x7d'), " ++
      "'$': (<class 'logging.StringTemplateStyle'>, " ++
      "'$\x7blevelname\x7d:$\x7bname\x7d:$\x7bmessage\x7d')\x7d"

/-- The log level as a number. An unknown name counts as `INFO`. -/
def numericLevel (s : Settings) : Except LevelError Nat :=
  match String.ofList (s.logLevel.toList.map upperLetter) with
  | "NOTSET" => .ok 0
  | "DEBUG" => .ok 10
  | "INFO" => .ok 20
  | "WARN" | "WARNING" => .ok 30
  | "ERROR" => .ok 40
  | "CRITICAL" | "FATAL" => .ok 50
  | "BASIC_FORMAT" => .error .format
  | "_STYLES" => .error .styles
  | _ => .ok 20

end Settings

end LivePage
