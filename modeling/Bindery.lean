import Bindery.Artifact.Frame
import Bindery.Artifact.Image
import Bindery.CommandLine.Basic
import Bindery.CommandLine.Files
import Bindery.CommandLine.Invocation
import Bindery.CommandLine.Words
import Bindery.Config.Basic
import Bindery.Config.Document
import Bindery.Decimal.Binary64
import Bindery.Decimal.Shortest
import Bindery.Description
import Bindery.Diagnostic
import Bindery.Digest.Sha256
import Bindery.Event
import Bindery.Failure
import Bindery.FileTree.Basic
import Bindery.FileTree.Path
import Bindery.FileTree.Text
import Bindery.Generator.Basic
import Bindery.Generator.Builtin
import Bindery.Generator.Run
import Bindery.Group.Basic
import Bindery.Group.Resolution
import Bindery.Interface.Basic
import Bindery.Interface.Queries
import Bindery.Item.Basic
import Bindery.Item.Json
import Bindery.Item.Order
import Bindery.Item.Term
import Bindery.Json.Basic
import Bindery.Json.Display
import Bindery.Json.Parser
import Bindery.Json.Printer
import Bindery.Legacy.Escape
import Bindery.Legacy.Fault
import Bindery.Legacy.Items
import Bindery.Legacy.Lexer
import Bindery.Legacy.Parser
import Bindery.Legacy.Scope
import Bindery.Legacy.Syntax
import Bindery.Legacy.Token
import Bindery.Library.Extraction
import Bindery.Library.LegacyFile
import Bindery.Library.Name
import Bindery.Library.Settings
import Bindery.Library.Source
import Bindery.Main
import Bindery.Order
import Bindery.Proofs.Artifact.Corruption
import Bindery.Proofs.Artifact.Foreign
import Bindery.Proofs.Artifact.Frame
import Bindery.Proofs.Artifact.Image
import Bindery.Proofs.CommandLine
import Bindery.Proofs.Config.Document
import Bindery.Proofs.Config.Section
import Bindery.Proofs.Config.Updates
import Bindery.Proofs.Description
import Bindery.Proofs.FileTree
import Bindery.Proofs.FileTree.Exact
import Bindery.Proofs.FileTree.Faults
import Bindery.Proofs.FileTree.Places
import Bindery.Proofs.FileTree.Updates
import Bindery.Proofs.FileTree.Ways
import Bindery.Proofs.Generator.Claims
import Bindery.Proofs.Generator.Failures
import Bindery.Proofs.Generator.Outputs
import Bindery.Proofs.Generator.Runs
import Bindery.Proofs.Generator.Unforeseen
import Bindery.Proofs.Group.Basic
import Bindery.Proofs.Group.Batches
import Bindery.Proofs.Group.Disagreements
import Bindery.Proofs.Group.Members
import Bindery.Proofs.Group.Order
import Bindery.Proofs.Group.Partition
import Bindery.Proofs.Group.Resolution
import Bindery.Proofs.Group.Settled
import Bindery.Proofs.Group.Stamps
import Bindery.Proofs.Group.Visits
import Bindery.Proofs.Interface.Agreement
import Bindery.Proofs.Interface.Basic
import Bindery.Proofs.Interface.Faults
import Bindery.Proofs.Interface.Listing
import Bindery.Proofs.Interface.Merge
import Bindery.Proofs.Interface.Queries
import Bindery.Proofs.Interface.References
import Bindery.Proofs.Interface.Remembered
import Bindery.Proofs.Interface.Renaming
import Bindery.Proofs.Interface.States
import Bindery.Proofs.Item.Json
import Bindery.Proofs.Item.NormalForm
import Bindery.Proofs.Item.Renaming
import Bindery.Proofs.Item.Term
import Bindery.Proofs.Item.Types
import Bindery.Proofs.Json.Canonical
import Bindery.Proofs.Json.Closing
import Bindery.Proofs.Json.Members
import Bindery.Proofs.Json.Numbers
import Bindery.Proofs.Json.RoundTrip
import Bindery.Proofs.Json.Strings
import Bindery.Proofs.Json.Writable
import Bindery.Proofs.Legacy.Escapes
import Bindery.Proofs.Legacy.Faults
import Bindery.Proofs.Legacy.Language
import Bindery.Proofs.Legacy.Literals
import Bindery.Proofs.Legacy.Names
import Bindery.Proofs.Legacy.Reordering
import Bindery.Proofs.Legacy.Scoping
import Bindery.Proofs.Legacy.Translation
import Bindery.Proofs.Library.Extraction
import Bindery.Proofs.Library.Faults
import Bindery.Proofs.Library.Source
import Bindery.Proofs.Order
import Bindery.Proofs.Outcome
import Bindery.Proofs.Reachability.Fields
import Bindery.Proofs.Reachability.Free
import Bindery.Proofs.Reachability.Queries
import Bindery.Proofs.Reachability.Renaming
import Bindery.Proofs.Reachability.Single
import Bindery.Proofs.Reachability.Walk
import Bindery.Proofs.Stub.Annotations
import Bindery.Proofs.Stub.Bindings
import Bindery.Proofs.Stub.Defaults
import Bindery.Proofs.Stub.Docstrings
import Bindery.Proofs.Stub.Imports
import Bindery.Proofs.Stub.Layout
import Bindery.Proofs.Stub.Lines
import Bindery.Proofs.Stub.Naming
import Bindery.Proofs.Stub.Renaming
import Bindery.Proofs.Stub.Sequence
import Bindery.Proofs.Table
import Bindery.Proofs.Text.Digits
import Bindery.Proofs.Text.Lines
import Bindery.Proofs.Text.Quoted
import Bindery.Proofs.Text.Utf8
import Bindery.Proofs.Ty.Json
import Bindery.Proofs.Ty.Term
import Bindery.Reachability
import Bindery.Stub.Expressions
import Bindery.Stub.Lines
import Bindery.Stub.Module
import Bindery.Stub.Statement
import Bindery.Table
import Bindery.Text.CharName
import Bindery.Text.CharName.Aliases
import Bindery.Text.CharName.Alphabets
import Bindery.Text.CharName.Ancient
import Bindery.Text.CharName.Computed
import Bindery.Text.CharName.EastAsian
import Bindery.Text.CharName.Hieroglyphs
import Bindery.Text.CharName.Notations
import Bindery.Text.CharName.Pictographs
import Bindery.Text.CharName.Run
import Bindery.Text.CharName.Syllabaries
import Bindery.Text.CharName.Symbols
import Bindery.Text.DecimalDigit
import Bindery.Text.Lines
import Bindery.Text.Pieces
import Bindery.Text.Printable
import Bindery.Text.Quoted
import Bindery.Text.Utf8
import Bindery.Traced
import Bindery.Ty.Basic
import Bindery.Ty.Json
import Bindery.Ty.Term
import Bindery.Writer
