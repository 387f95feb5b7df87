/-
What can be wrong with JSON text. An error names its cause and how many
bytes had been consumed when it was noticed; the wording is in one place.

* `Json.Error`: why strict reading fails;
* `Json.DecodeError`: why reading with or without a repair fails.
-/
import LivePage.Text.Raw

namespace LivePage.Json

/-- What is malformed at some byte. -/
inductive Complaint
  | invalidCharacter
  | expectedCommaOrBracket
  | trailingCommaInArray
  | keyNotText
  | expectedColon
  | expectedCommaOrBrace
  | trailingCommaInObject
  | trailingCharacters
  | invalidEscape
  | invalidHexDigit
  | unfinishedSurrogatePair
  | invalidSurrogatePair
  | invalidNumber
deriving DecidableEq

def Complaint.text : Complaint → String
  | .invalidCharacter => "invalid character"
  | .expectedCommaOrBracket => "expected ',' or ']'"
  | .trailingCommaInArray => "trailing comma in array"
  | .keyNotText => "object keys must be strings"
  | .expectedColon => "expected ':'"
  | .expectedCommaOrBrace => "expected ',' or '\x7d'"
  | .trailingCommaInObject => "trailing comma in object"
  | .trailingCharacters => "trailing characters"
  | .invalidEscape => "invalid escape character in string"
  | .invalidHexDigit => "invalid character in unicode escape"
  | .unfinishedSurrogatePair => "unexpected end of escaped utf-16 surrogate pair"
  | .invalidSurrogatePair => "invalid utf-16 surrogate pair"
  | .invalidNumber => "invalid number"

/-- A step from a container to its contents. -/
inductive Step
  | element (index : Nat)
  | member
deriving DecidableEq

def Step.text : Step → String
  | .element index => s!"[{index}]"
  | .member => "[...]"

/-- Why strict reading fails. -/
inductive Error
  /-- The input ends inside a value. -/
  | truncated
  | malformed (what : Complaint) (offset : Nat)
  /-- A double too large, inside the containers of `path`. -/
  | numberOutOfRange (path : List Step)
  /-- An integer with too many digits, inside the containers of `path`. -/
  | integerOutOfRange (digits : Nat) (path : List Step)
  /-- The content of a text is not UTF-8. -/
  | illFormed (part : Utf8.Malformed)
deriving DecidableEq

/-- The error as it shows outside the container in which it arose. -/
def Error.within (step : Step) : Error → Error
  | .numberOutOfRange path => .numberOutOfRange (step :: path)
  | .integerOutOfRange digits path => .integerOutOfRange digits (step :: path)
  | e => e

/-- Where a number stands, when it stands inside a container. -/
def placeText (path : List Step) : String :=
  if path.isEmpty then "" else s!" - at `${String.join (path.map Step.text)}`"

def Error.text : Error → String
  | .truncated => "Input data was truncated"
  | .malformed what offset => s!"JSON is malformed: {what.text} (byte {offset})"
  | .numberOutOfRange path => "Number out of range" ++ placeText path
  | .integerOutOfRange _ path => "Integer value out of range" ++ placeText path
  | .illFormed part => part.message

/-- Why text cannot be repaired. -/
inductive RepairError
  | nothingRecoverable
  | hugeInteger (digits : Nat)
deriving DecidableEq

/-- The most digits that an integer may have. -/
def maxDigits : Nat := 4300

/-- The complaint about a number of more than `maxDigits` digits. -/
def hugeIntegerText (digits : Nat) : String :=
  s!"Exceeds the limit ({maxDigits} digits) for integer string conversion: " ++
    s!"value has {digits} digits; use sys.set_int_max_str_digits() to increase the limit"

def RepairError.text : RepairError → String
  | .nothingRecoverable => "Expecting value: line 1 column 1 (char 0)"
  | .hugeInteger digits => hugeIntegerText digits

/-- Why text yields no value. -/
inductive DecodeError
  | invalid (cause : Error)
  | unrepairable (cause : Error) (reason : RepairError)
  | illFormed (part : Utf8.Malformed)
  | unencodable (cause : Utf8.Unencodable)
deriving DecidableEq

def DecodeError.message : DecodeError → String
  | .invalid cause => s!"Invalid JSON: {cause.text}"
  | .unrepairable cause reason =>
    s!"Invalid JSON: {cause.text} (repair failed: {reason.text})"
  | .illFormed part => part.message
  | .unencodable cause => cause.message

end LivePage.Json
