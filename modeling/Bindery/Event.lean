import Bindery.FileTree.Path
/-!
# Events

What a run tells about its progress, and the line that each event has in a log.
-/
namespace Bindery

inductive Level where
  | debug | info
  deriving DecidableEq, Repr

inductive Event where
  | extracted (items : Nat) (library : Path)
  | grouped (items groups : Nat)
  | readLegacy (file : Path) (items : Nat)
  | foundSources (sources : Nat) (library : Path)
  | stored (changed : Bool) (language library : String) (file : Path)
  deriving DecidableEq, Repr

namespace Event

def level : Event → Level
  | extracted .. | grouped .. | readLegacy .. => .debug
  | foundSources .. | stored .. => .info

/-- The part of the program that an event comes from. -/
def topic : Event → String
  | extracted .. => "ubind.meta.extract"
  | grouped .. => "ubind.meta.group"
  | readLegacy .. | foundSources .. => "ubind.bindgen.library_mode"
  | stored .. => "ubind.bindgen.writers"

def text : Event → String
  | extracted items library =>
    "extracted " ++ toString items ++ " metadata item(s) from " ++ library.render
  | grouped items groups =>
    "assigned " ++ toString items ++ " metadata item(s) to " ++ toString groups ++ " group(s)"
  | readLegacy file items =>
    "parsed legacy interface file " ++ file.render ++ " (" ++ toString items ++ " item(s))"
  | foundSources sources library =>
    "found " ++ toString sources ++ " library source(s) in " ++ library.render
  | stored changed language library file =>
    (if changed then "wrote " else "unchanged ") ++ language ++ " bindings for " ++ library ++
      " -> " ++ file.render

def levelName : Level → String
  | .debug => "DEBUG"
  | .info => "INFO"

/-- The line of an event in a log. -/
def line (e : Event) : String := levelName e.level ++ " " ++ e.topic ++ ": " ++ e.text

end Event
end Bindery
