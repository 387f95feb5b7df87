/-
Identifiers of sessions and dispatches: a word for the kind, an
underscore, and 26 characters in base 32 that hold a time and a random
part.

* `Identifier.make`: the identifier of a kind, a time and a random part;
* `Identifier.stem?`, `Identifier.isValid`: the kind of a text that may be
  an identifier, and whether its other part is well-formed.
-/

namespace LivePage

inductive IdentifierKind
  | session
  | dispatch
deriving DecidableEq

def IdentifierKind.text : IdentifierKind → String
  | .session => "sess"
  | .dispatch => "disp"

namespace Identifier

/-- The digits of base 32: no letter that looks like another digit, and no `U`. -/
def alphabet : List Char := "0123456789ABCDEFGHJKMNPQRSTVWXYZ".toList

/-- The number of digits. -/
def width : Nat := 26

/-- The last `count` digits of a number in base 32. -/
def digits (count n : Nat) : List Char :=
  (List.range count).reverse.map fun place => alphabet.getD (n / Nat.pow 32 place % 32) '0'

/-- The identifier of a kind with 48 bits of time and 80 random bits. -/
def make (kind : IdentifierKind) (time random : Nat) : String :=
  let number := time % Nat.pow 2 48 * Nat.pow 2 80 + random % Nat.pow 2 80
  kind.text ++ "_" ++ String.ofList (digits width number)

/-- The part in front of the underscore, if there is exactly one. -/
def stem? (s : String) : Option String :=
  match s.toList.splitOn '_' with
  | [stem, _] => some (String.ofList stem)
  | _ => none

/-- Whether digits in either case spell a number of at most 128 bits. -/
def isNumber (cs : List Char) : Bool :=
  cs.length == width && cs.all (fun c => alphabet.contains c.toUpper) &&
    cs.head?.any (fun c => c.toNat ≤ '7'.toNat)

/-- Whether the part behind the first underscore is well-formed, or the whole text when there
is none. -/
def isValid (s : String) : Bool :=
  match s.toList.dropWhile (· != '_') with
  | _ :: number => isNumber number
  | [] => isNumber s.toList

end Identifier

end LivePage
