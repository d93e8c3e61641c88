import Bindery.Text.Lines
import Bindery.Text.Pieces
/-!
# Lines of a stub

A stub is built as a list of lines. Indentation is by tabs, and an empty line has none.
-/
namespace Bindery.Stub

def line (depth : Nat) (text : String) : String :=
  if text = "" then "" else String.ofList (List.replicate depth '\t') ++ text

def blank : String := ""

/-- Three double quotes. -/
def tripleQuote : List Char := ['"', '"', '"']

/-- Write every run of three double quotes with backslashes. -/
def escapeTriple : List Char → List Char
  | [] => []
  | '"' :: '"' :: '"' :: rest => '\\' :: '"' :: '\\' :: '"' :: '\\' :: '"' :: escapeTriple rest
  | c :: rest => c :: escapeTriple rest

/-- The lines of a docstring: on one line when the text has no line feed, else with the quotes on
lines of their own. There are none for a text that is missing or empty. -/
def docstring (depth : Nat) (text : Option String) : List String :=
  let chars := (text.getD "").toList
  if chars.isEmpty then []
  else
    let body := escapeTriple chars
    let quotes := line depth (String.ofList tripleQuote)
    if '\n' ∈ body then
      quotes :: (Text.splitLines body).map (fun part => line depth (String.ofList part)) ++ [quotes]
    else [line depth (String.ofList (tripleQuote ++ body ++ tripleQuote))]

/-- The text of a file: no line feeds at its end but one. -/
def fileText (lines : List String) : String :=
  let chars := (Text.join "\n" lines).toList
  String.ofList ((chars.reverse.dropWhile (· = '\n')).reverse ++ ['\n'])

end Bindery.Stub
