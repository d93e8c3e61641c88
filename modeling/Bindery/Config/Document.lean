import Bindery.Config.Basic
import Bindery.Order
/-!
# The settings document

The JSON document that holds the settings of a library, and what is refused in it. Wherever a
mapping may be left out it may also be given as null or as any other empty value.
-/
namespace Bindery.Config

/-- What is wrong with a settings document. -/
inductive Fault where
  | notObject
  | unsupported
  | unknownKeys (keys : List String)
  | bindingsNotObject
  | sectionNotObject (language : String)
  | unknownSectionKeys (language : String) (keys : List String)
  | notText (place : String)
  | notMap (place : String)
  deriving DecidableEq, Repr

def placeOf (language : String) : String := "bindings." ++ language

def Fault.message : Fault → String
  | notObject => "config must be a JSON object"
  | unsupported => "unsupported config format/version"
  | unknownKeys keys => "unknown config key(s): " ++ Text.join ", " keys
  | bindingsNotObject => "config bindings must be a JSON object"
  | sectionNotObject language => placeOf language ++ " must be a JSON object"
  | unknownSectionKeys language keys =>
    "unknown key(s) in " ++ placeOf language ++ ": " ++ Text.join ", " keys
  | notText place => place ++ " must be a non-empty string"
  | notMap place => place ++ " must be a JSON object"

def topLevelKeys : List String := ["format", "version", "bindings"]

def sectionKeys : List String :=
  ["module_name", "cdylib_name", "package_name", "external_packages", "rename"]

/-- The keys of an object that are not in a list, in order. -/
def unknownAmong (known : List String) (members : List (String × Json)) : List String :=
  Order.sortTexts ((members.map Prod.fst).filter (· ∉ known))

/-- Null, false, zero, and empty texts, lists and objects. -/
def isBlank : Json → Bool
  | .null => true
  | .bool b => !b
  | .int n => decide (n = 0)
  | .float x => x.isZero
  | .str s => decide (s = "")
  | .arr elements => elements.isEmpty
  | .obj members => members.isEmpty

/-- Equal to the number zero; false counts as zero. -/
def isZero : Json → Bool
  | .bool b => !b
  | .int n => decide (n = 0)
  | .float x => x.isZero
  | _ => false

def isFormat : Json → Bool
  | .str s => decide (s = "ubind-config")
  | _ => false

/-- A text that is not empty, or nothing. -/
def readText (members : List (String × Json)) (place key : String) :
    Except Fault (Option String) :=
  match Json.memberOrNull members key with
  | .null => .ok none
  | .str s => if s = "" then .error (.notText (place ++ "." ++ key)) else .ok (some s)
  | _ => .error (.notText (place ++ "." ++ key))

def readEntry (place : String) (entry : String × Json) : Except Fault (String × String) :=
  match entry.2 with
  | .str s =>
    if s = "" then .error (.notText (place ++ "." ++ entry.1)) else .ok (entry.1, s)
  | _ => .error (.notText (place ++ "." ++ entry.1))

/-- A mapping to texts that are not empty; a blank value stands for the empty mapping. -/
def readMap (members : List (String × Json)) (place key : String) :
    Except Fault (Table String String) :=
  let value := Json.memberOrNull members key
  if isBlank value then .ok .empty
  else match value with
    | .obj entries => (entries.mapM (readEntry (place ++ "." ++ key))).map Table.ofList
    | _ => .error (.notMap (place ++ "." ++ key))

def readSection (language : String) : Json → Except Fault Section
  | .obj members => do
    let place := placeOf language
    let unknown := unknownAmong sectionKeys members
    if unknown ≠ [] then throw (.unknownSectionKeys language unknown)
    let moduleName ← readText members place "module_name"
    let cdylibName ← readText members place "cdylib_name"
    let packageName ← readText members place "package_name"
    let externalPackages ← readMap members place "external_packages"
    let renames ← readMap members place "rename"
    pure { language, moduleName, cdylibName, packageName, externalPackages, renames }
  | _ => .error (.sectionNotObject language)

def readSections (bindings : Json) : Except Fault (Table String Section) :=
  if isBlank bindings then .ok .empty
  else match bindings with
    | .obj entries => do
      let sections ← entries.mapM fun entry => do
        let read ← readSection entry.1 entry.2
        pure (entry.1, read)
      pure (Table.ofList sections)
    | _ => .error .bindingsNotObject

/-- Read a document; languages without a section get an empty one. -/
def ofJson (languages : List String) : Json → Except Fault Config
  | .obj members => do
    if !isFormat (Json.memberOrNull members "format") ||
        !isZero (Json.memberOrNull members "version") then throw .unsupported
    let unknown := unknownAmong topLevelKeys members
    if unknown ≠ [] then throw (.unknownKeys unknown)
    let sections ← readSections (Json.memberOrNull members "bindings")
    pure (withLanguages ⟨sections⟩ languages)
  | _ => .error .notObject

/-- The settings of a library without a document. -/
def default (languages : List String) : Config := withLanguages {} languages

end Bindery.Config
