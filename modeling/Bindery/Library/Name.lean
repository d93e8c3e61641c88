import Bindery.FileTree.Path
/-!
# Library names

The name under which a shared library is loaded, read off its file name.
-/
namespace Bindery.Library

def fileEndings : List String := [".so", ".dll", ".dylib"]

/-- The file name without a leading `lib`, which goes whatever the ending is, and without the
ending; nothing for a file with another ending. -/
def cdylibName (library : Path) : Option String :=
  let name := library.name.toList
  let stem := (Text.dropHead? "lib".toList name).getD name
  (fileEndings.findSome? fun ending => Text.dropTail? ending.toList stem).map String.ofList

end Bindery.Library
