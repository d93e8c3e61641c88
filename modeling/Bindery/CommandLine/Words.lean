import Bindery.Failure
import Bindery.Text.DecimalDigit
import Bindery.Text.Quoted
/-!
# Words of a command line

The arguments of a command are options, values of options, and at most one operand. Two dashes end
the options. A word that is no known option is left over, and so is an operand too many; the caller
decides what that means.
-/
namespace Bindery.CommandLine

structure OptionRule where
  /-- The ways to write the option, each with its dashes. -/
  spellings : List String
  /-- Whether a value follows. -/
  valued : Bool := false
  required : Bool := false
  /-- The values that are accepted, unless any is. -/
  choices : Option (List String) := none
  deriving DecidableEq, Repr

def OptionRule.name (rule : OptionRule) : String := Text.join "/" rule.spellings

/-- Why nothing is run. -/
inductive UsageFault where
  /-- Help was asked for. -/
  | help
  | required (names : List String)
  | invalidChoice (name value : String) (choices : List String)
  | missingValue (name : String)
  | needlessValue (name value : String)
  | unrecognized (words : List String)
  | badRoot (value : String)
  | blank (what : Blank)
  deriving DecidableEq, Repr

def UsageFault.message : UsageFault → String
  | help => "help was asked for"
  | required names => "the following arguments are required: " ++ Text.join ", " names
  | invalidChoice name value choices =>
    "argument " ++ name ++ ": invalid choice: " ++ Text.quoted value ++ " (choose from " ++
      Text.join ", " (choices.map Text.quoted) ++ ")"
  | missingValue name => "argument " ++ name ++ ": expected one argument"
  | needlessValue name value =>
    "argument " ++ name ++ ": ignored explicit argument " ++ Text.quoted value
  | unrecognized words => "unrecognized arguments: " ++ Text.join " " words
  | badRoot value => "--crate-root expects NAME=PATH, got '" ++ value ++ "'"
  | blank what => what.message

def helpRule : OptionRule := { spellings := ["-h", "--help"] }

inductive Word where
  | plain (text : String)
  | dashes
  | option (rule : OptionRule) (value : Option String)
  /-- An option of one dash and one letter, and the letters of more such options. -/
  | letters (rule : OptionRule) (rest : List Char)
  | unknown (text : String)
  deriving DecidableEq, Repr

/-- Digits with at most one point, and a digit at the end; a line feed may follow. -/
def isNumber (s : List Char) : Bool :=
  let line := if s.getLast? = some '\n' then s.dropLast else s
  match line.dropWhile Text.isDecimalDigit with
  | [] => line ≠ []
  | '.' :: fraction => fraction ≠ [] && fraction.all Text.isDecimalDigit
  | _ => false

/-- Words that start with a dash and yet are no options: a lone dash, a negative number, and a word
with a space in it. -/
def isOperand : List Char → Bool
  | '-' :: rest => rest = [] || isNumber rest || rest.contains ' '
  | _ => true

def findRule (rules : List OptionRule) (spelling : List Char) : Option OptionRule :=
  rules.find? fun rule => rule.spellings.any fun known => known.toList = spelling

/-- The option of one dash and one letter that a word starts with, and what follows the letter. -/
def short? (rules : List OptionRule) : List Char → Option (OptionRule × List Char)
  | '-' :: letter :: rest => (findRule rules ['-', letter]).map fun rule => (rule, rest)
  | _ => none

/-- A value can be joined to its option with an equals sign. Behind an option of one letter it is
read as more letters. -/
def joined? (rules : List OptionRule) (word : List Char) : Option Word :=
  match Text.cut '=' word with
  | (name, some value) =>
    (findRule rules name).map fun rule =>
      if (short? rules name).isSome && !value.isEmpty then .letters rule value
      else .option rule (some (String.ofList value))
  | (_, none) => none

def wordOf (rules : List OptionRule) (word : String) : Word :=
  if word = "--" then .dashes
  else match findRule rules word.toList with
    | some rule => .option rule none
    | none =>
      match joined? rules word.toList with
      | some found => found
      | none =>
        match short? rules word.toList with
        | some (rule, rest) => .letters rule rest
        | none => if isOperand word.toList then .plain word else .unknown word

/-- The words behind two dashes are no options. -/
def wordsOf (rules : List OptionRule) : List String → List Word
  | [] => []
  | word :: rest =>
    if word = "--" then .dashes :: rest.map .plain
    else wordOf rules word :: wordsOf rules rest

/-- The options that letters stand for, the first of which is known already. What follows a letter
that stands for none is taken for a value of the option before it, which has none. -/
def lettersOf (rules : List OptionRule) (rule : OptionRule) :
    List Char → Except UsageFault (List OptionRule)
  | [] => .ok [rule]
  | letter :: rest =>
    match findRule rules ['-', letter] with
    | some next => (lettersOf rules next rest).map (rule :: ·)
    | none => .error (.needlessValue rule.name (String.ofList (letter :: rest)))

/-- What has been read of the arguments of a command. -/
structure Reading where
  operand : Option String := none
  /-- The options with their values, in order. -/
  options : List (String × Option String) := []
  leftOver : List String := []
  deriving DecidableEq, Repr

namespace Reading

def leave (r : Reading) (word : String) : Reading := { r with leftOver := r.leftOver ++ [word] }

def record (r : Reading) (rule : OptionRule) (value : Option String) : Reading :=
  { r with options := r.options ++ [(rule.name, value)] }

/-- Read an option that takes no value. -/
def flag (r : Reading) (rule : OptionRule) : Except UsageFault Reading :=
  if rule = helpRule then .error .help else .ok (r.record rule none)

/-- Read an option with its value. -/
def setOption (r : Reading) (rule : OptionRule) (value : String) : Except UsageFault Reading :=
  match rule.choices with
  | none => .ok (r.record rule value)
  | some choices =>
    if value ∈ choices then .ok (r.record rule value)
    else .error (.invalidChoice rule.name value choices)

/-- Read an option with the value that is joined to it. Two dashes are no value, and are not
compared with the choices. -/
def setJoined (r : Reading) (rule : OptionRule) (value : String) : Except UsageFault Reading :=
  if value = "--" then .ok (r.record rule none) else r.setOption rule value

/-- Read a word that needs no other: an option with all that belongs to it, or one to leave over. -/
def readAlone (rules : List OptionRule) (r : Reading) : Word → Except UsageFault Reading
  | .plain word | .unknown word => .ok (r.leave word)
  | .dashes => .ok (r.leave "--")
  | .option rule none => r.flag rule
  | .option rule (some value) =>
    if rule.valued then r.setJoined rule value else .error (.needlessValue rule.name value)
  | .letters rule letters => do
    let found ← lettersOf rules rule letters
    found.foldlM flag r

/-- Read words; dashes next to the operand belong to it. -/
def readWords (rules : List OptionRule) (r : Reading) : List Word → Except UsageFault Reading
  | [] => .ok r
  | .plain word :: rest =>
    if r.operand.isSome then readWords rules (r.leave word) rest
    else match rest with
      | .dashes :: rest => readWords rules { r with operand := some word } rest
      | rest => readWords rules { r with operand := some word } rest
  | .dashes :: rest =>
    if r.operand.isSome then readWords rules (r.leave "--") rest
    else match rest with
      | .plain word :: rest => readWords rules { r with operand := some word } rest
      | rest => readWords rules (r.leave "--") rest
  | .option rule none :: rest =>
    if rule.valued then
      match rest with
      | .plain value :: rest =>
        match r.setOption rule value with
        | .error fault => .error fault
        | .ok r => readWords rules r rest
      | _ => .error (.missingValue rule.name)
    else
      match r.flag rule with
      | .error fault => .error fault
      | .ok r => readWords rules r rest
  | word :: rest =>
    match r.readAlone rules word with
    | .error fault => .error fault
    | .ok r => readWords rules r rest

/-- What an option was given, each time that it was given. -/
def valuesOf (r : Reading) (name : String) : List (Option String) :=
  r.options.filterMap fun entry => if entry.1 = name then some entry.2 else none

/-- The last time that an option is given counts. -/
def value? (r : Reading) (name : String) : Option (Option String) := (r.valuesOf name).getLast?

def isSet (r : Reading) (name : String) : Bool := (r.value? name).isSome

end Reading

/-- What must be given and is not: the operand, then the options in the order of their rules. -/
def missing (rules : List OptionRule) (r : Reading) : List String :=
  (if r.operand.isSome then [] else ["library"]) ++
    ((rules.filter fun rule => rule.required && !r.isSet rule.name).map OptionRule.name)

/-- Read the arguments of a command that has these options and one operand. -/
def readArguments (rules : List OptionRule) (args : List String) : Except UsageFault Reading :=
  match Reading.readWords rules {} (wordsOf rules args) with
  | .error fault => .error fault
  | .ok r => if missing rules r = [] then .ok r else .error (.required (missing rules r))

end Bindery.CommandLine
