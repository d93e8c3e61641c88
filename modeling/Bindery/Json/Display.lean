import Bindery.Decimal.Shortest
import Bindery.Json.Basic
import Bindery.Text.Quoted
/-!
# Showing JSON in messages

How a message shows a value that stands where a word was expected. A text on its own is shown as it
is; inside a list or an object texts are quoted.
-/
namespace Bindery.Json

def displayLayout : Decimal.Layout := ⟨-4, 15, 2, "nan", "inf"⟩

mutual

def displayInside : Json → String
  | .null => "None"
  | .bool true => "True"
  | .bool false => "False"
  | .int n => String.ofList (Text.ofInt n)
  | .float x => String.ofList (Decimal.render displayLayout x)
  | .str s => Text.quoted s
  | .arr elements => "[" ++ displayElements elements ++ "]"
  | .obj members => "\x7b" ++ displayMembers members ++ "\x7d"

def displayElements : List Json → String
  | [] => ""
  | [element] => displayInside element
  | element :: rest => displayInside element ++ ", " ++ displayElements rest

def displayMembers : List (String × Json) → String
  | [] => ""
  | [(key, value)] => Text.quoted key ++ ": " ++ displayInside value
  | (key, value) :: rest =>
    Text.quoted key ++ ": " ++ displayInside value ++ ", " ++ displayMembers rest

end

def display : Json → String
  | .str s => s
  | j => displayInside j

end Bindery.Json
