import Bindery.Config.Basic
import Bindery.Item.Json
import Bindery.Json.Printer
/-!
# Interface descriptions

The canonical JSON description of an interface with its settings, for other tools. There is none for
an interface without a public name, nor for one that holds an integer which is too long to be
written.
-/
namespace Bindery.Description

def toJson (s : Section) (i : Interface) (name : String) : Json :=
  .obj [
    ("format", .str "ubind-interface"),
    ("version", .int 0),
    ("crate_name", .str i.library),
    ("namespace", .str name),
    ("namespace_docstring", Json.ofText? i.docstring),
    ("config", s.toJson),
    ("external_namespaces", Json.texts i.externalNamespaces),
    ("items", Item.listToJson i.sortedItems)]

/-- The text of the description: one line. -/
def render (s : Section) (i : Interface) : Except Interface.Fault String := do
  let name ← i.namespaceName
  let text ← (toJson s i name).canonicalText.mapError fun cause => i.fault (.unwritable cause)
  pure (text ++ "\n")

end Bindery.Description
