import Bindery.Decimal.Binary64
/-!
# JSON values

A JSON document. An object keeps its members in the order in which they were written; a reader of
members goes through `member?`. An integer has a text only if that has no more than `maxDigits`
digits, in both directions: a longer one is neither read nor written.
-/
namespace Bindery

inductive Json where
  | null
  | bool (value : Bool)
  | int (value : Int)
  | float (value : Decimal.Binary64)
  | str (value : String)
  | arr (elements : List Json)
  | obj (members : List (String × Json))
  deriving Repr, Inhabited

namespace Json

/-- The most digits that an integer may have in a text. -/
def maxDigits : Nat := 4300

/-- The start of a message about an integer that is too long. -/
def digitLimit : String :=
  "Exceeds the limit (" ++ toString maxDigits ++ " digits) for integer string conversion"

/-- The end of a message about an integer that is too long. -/
def digitAdvice : String := "; use sys.set_int_max_str_digits() to increase the limit"

/-- The value of a key among the members of an object. -/
def member? (members : List (String × Json)) (key : String) : Option Json :=
  (members.find? (·.1 = key)).map Prod.snd

/-- The value of a key, or null where the key is missing. -/
def memberOrNull (members : List (String × Json)) (key : String) : Json :=
  (member? members key).getD .null

def ofOption (f : α → Json) : Option α → Json
  | none => .null
  | some a => f a

def ofText? : Option String → Json := ofOption .str

def texts (values : List String) : Json := .arr (values.map .str)

end Json
end Bindery
