import Bindery.CommandLine.Basic
/-!
# The files of an invocation

Which paths a command looks at, in three steps, since a later step depends on what the files of the
step before hold. A tree that agrees with the disk on all of them is enough to run the command.
-/
namespace Bindery.CommandLine

def namedSettings : Library.SettingsChoice → List Path
  | .file path => [path]
  | .inRoot | .nameless => []

/-- The library, the named settings, and the settings file of each source root. -/
def firstPaths : Command → List Path
  | .generate _ r _ =>
    r.library :: namedSettings r.config ++ r.roots.values.map (·.append Library.settingsName)
  | .printMetadata library => [library]

def declaredStubs (t : FileTree) (library : Path) : List String :=
  match Library.itemsOfFile t library with
  | .ok items => (items.filterMap Item.legacyMarker?).map LegacyMarker.fileStub
  | .error _ => []

/-- The legacy files that the library declares, below every source root. -/
def legacyPaths (t : FileTree) : Command → List Path
  | .generate _ r _ =>
    r.roots.values.flatMap fun root => (declaredStubs t r.library).map (Library.legacyPath root)
  | .printMetadata _ => []

def outputNames (g : Generator Unit) (s : Source) : List String :=
  match g.filenames s with
  | .ok outputs => outputs.map Prod.snd
  | .error _ => []

/-- The output directory and the files that go there. -/
def outputPaths (t : FileTree) : Command → List Path
  | .generate _ _ none => []
  | .generate languages r (some outDir) =>
    match Generator.forLanguages languages with
    | .error _ => []
    | .ok g =>
      match (g.prepare r ⟨t, ()⟩).2.outcome with
      | .error _ => []
      | .ok chosen => outDir :: (chosen.flatMap (outputNames g)).map outDir.append
  | .printMetadata _ => []

end Bindery.CommandLine
