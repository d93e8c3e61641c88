import Bindery.Text.CharName.Aliases
import Bindery.Text.CharName.Alphabets
import Bindery.Text.CharName.Ancient
import Bindery.Text.CharName.Computed
import Bindery.Text.CharName.EastAsian
import Bindery.Text.CharName.Hieroglyphs
import Bindery.Text.CharName.Notations
import Bindery.Text.CharName.Pictographs
import Bindery.Text.CharName.Syllabaries
import Bindery.Text.CharName.Symbols
/-!
# Names of characters

The code point that a name stands for (Unicode 14.0). Upper and lower case letters are not told
apart, except in the names of unified ideographs and of Hangul syllables.
-/
namespace Bindery.Text

namespace CharName

/-- All names that are not computed. -/
def runs : List Run :=
  alphabets ++ syllabaries ++ symbols ++ eastAsian ++ ancient ++ hieroglyphs ++ notations ++
    pictographs ++ aliases

end CharName

open CharName

/-- The code point that a name stands for. -/
def named? (name : List Char) : Option Nat :=
  let spelling := name.map Char.toUpper
  match (ideograph? name).or (syllable? name) with
  | some point => some point
  | none => (numbered? spelling).or (runs.findSome? (·.point? spelling))

end Bindery.Text
