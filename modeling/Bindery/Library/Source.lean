import Bindery.Library.Extraction
import Bindery.Library.LegacyFile
import Bindery.Library.Settings
/-!
# Sources

What bindings are generated from: one interface with its settings for each library of an artifact,
in the order of the libraries. Finding them reads files and writes none.
-/
namespace Bindery

structure Source where
  library : String
  interface : Interface
  config : Config
  deriving DecidableEq

namespace Library

/-- What the caller knows about the libraries besides the artifact. -/
structure Context where
  cdylib : Option String := none
  /-- Settings for every library. -/
  config : SettingsChoice := .inRoot
  /-- The source root of each library. -/
  roots : Table String Path := .empty
  languages : List String := []

/-- The interface of a library: what its legacy file describes, then its own items. -/
def assemble (library : String) (legacy : Option Group) (group : Group) :
    Except Failure Interface :=
  ((Interface.empty library).addGroups (legacy.toList ++ [group])).mapError .ofInterface

def configure (t : FileTree) (ctx : Context) (library : String) (i : Interface) :
    Except Failure Config :=
  match settings t ctx.languages ctx.config (ctx.roots.get? library) with
  | .error failure => .error (failure.ofLibrary library)
  | .ok config =>
    let named := match ctx.cdylib with
      | some name => config.withCdylibName name
      | none => config
    match named.withInterface i with
    | (updated, .ok ()) => .ok updated
    | (_, .error fault) => .error (.ofInterface fault)

def source (t : FileTree) (ctx : Context) (groups : GroupMap) (free : List Ident)
    (entry : String × Group) : Traced Source := do
  let library := entry.1
  let legacy ← legacyGroup t library (ctx.roots.get? library) groups free entry.2
  let i ← .ofExcept (assemble library legacy entry.2)
  let config ← .ofExcept (configure t ctx library i)
  pure ⟨library, i, config⟩

/-- The sources of the items of an artifact. -/
def sourcesOfItems (t : FileTree) (ctx : Context) (items : List Item) : Traced (List Source) := do
  let groups ← group items
  groups.sorted.mapM (source t ctx groups (Reachability.freeIdents items false))

/-- The sources of a library file. -/
def sources (t : FileTree) (ctx : Context) (library : Path) : Traced (List Source) := do
  let items ← extract t library
  let found ← sourcesOfItems t ctx items
  .note (.foundSources found.length library)
  pure found

end Library
end Bindery
