import Bindery.Interface.Queries
import Bindery.Json.Basic
/-!
# Settings

The settings of one library for every target language. A value that the document gives always wins
over one that is derived later from the library file or from the interface.
-/
namespace Bindery

/-- The settings for one language. -/
structure Section where
  language : String
  moduleName : Option String := none
  cdylibName : Option String := none
  packageName : Option String := none
  externalPackages : Table String String := .empty
  renames : Table String String := .empty
  deriving DecidableEq

namespace Section

def empty (language : String) : Section := { language := language }

def withCdylibName (s : Section) (name : String) : Section :=
  { s with cdylibName := some (s.cdylibName.getD name) }

/-- Name the module after the namespace, and import the namespaces of other libraries by name. -/
def withInterface (i : Interface) (s : Section) : Except Interface.Fault Section := do
  let moduleName ← match s.moduleName with
    | some name => pure name
    | none => i.namespaceName
  pure { s with
    moduleName := some moduleName
    externalPackages :=
      i.externalNamespaces.foldl (fun t name => t.insertNew name name) s.externalPackages }

/-- The generated name of a type. -/
def renamed (s : Section) (name : String) : String := (s.renames.get? name).getD name

/-- The package that holds a namespace. -/
def packageOf (s : Section) (name : String) : String := (s.externalPackages.get? name).getD name

def mapJson (t : Table String String) : Json :=
  .obj (t.entries.map fun entry => (entry.1, .str entry.2))

def toJson (s : Section) : Json :=
  .obj [
    ("language", .str s.language),
    ("module_name", Json.ofText? s.moduleName),
    ("cdylib_name", Json.ofText? s.cdylibName),
    ("package_name", Json.ofText? s.packageName),
    ("external_packages", mapJson s.externalPackages),
    ("rename", mapJson s.renames)]

end Section

/-- A section for every language that is asked for. -/
structure Config where
  sections : Table String Section := .empty
  deriving DecidableEq

namespace Config

/-- The section of a language, which is added when it is missing. -/
def withLanguage (c : Config) (language : String) : Config :=
  ⟨c.sections.insertNew language (.empty language)⟩

def sectionFor (c : Config) (language : String) : Section :=
  (c.sections.get? language).getD (.empty language)

def withLanguages (c : Config) (languages : List String) : Config := languages.foldl withLanguage c

def withCdylibName (c : Config) (name : String) : Config :=
  ⟨c.sections.map (·.withCdylibName name)⟩

/-- Update the sections in order up to the first one that fails. -/
def withInterface (c : Config) (i : Interface) : Config × Except Interface.Fault Unit :=
  let (sections, outcome) := c.sections.update (Section.withInterface i)
  (⟨sections⟩, outcome)

def toJson (c : Config) : Json :=
  .obj (c.sections.entries.map fun entry => (entry.1, entry.2.toJson))

end Config
end Bindery
