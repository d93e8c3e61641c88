import Bindery.CommandLine.Basic
import Bindery.Proofs.Generator.Failures
/-!
# Answers of the program

How an invocation that generates bindings ends, told from how its run ends. A report is printed and
the program exits with 2; a failure that is no report is left without an answer.
-/
namespace Bindery.CommandLine

open Outcome

/-- The output tells a report, as JSON or in the last line of the error output. -/
def Output.Tells (asJson : Bool) (output : Output) (d : Diagnostic) : Prop :=
  if asJson then output.stdout = (reportJson 2 [diagnosticJson d] []).ascii ++ "\n"
  else ∃ log, output.stderr = log ++ d.render ++ "\n"

/-- The program has an answer: it exits with 0, or with 2 and a report. -/
def Answers (v : Invocation) (t : FileTree) : Prop :=
  ∃ output, (run v t).2 = .ok output ∧
    (output.exit = 0 ∨ output.exit = 2 ∧ ∃ d, output.Tells v.asJson d)

section

variable {v : Invocation} {result : Traced String}

end

variable {v : Invocation} {t : FileTree} {w' : World Unit} {failure : Failure}

end Bindery.CommandLine
