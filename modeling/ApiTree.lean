import ApiTree.Command.Arguments
import ApiTree.Command.Execute
import ApiTree.Convert.Assembly
import ApiTree.Convert.Conversion
import ApiTree.Convert.Failure
import ApiTree.Convert.Launching
import ApiTree.Convert.Run
import ApiTree.Convert.Settings
import ApiTree.Decl.Basic
import ApiTree.Decl.Grouping
import ApiTree.Decl.Hierarchy
import ApiTree.Decl.Id
import ApiTree.Decl.Kind
import ApiTree.Decl.Path
import ApiTree.Decl.Renumber
import ApiTree.Decl.TypeExpr
import ApiTree.Decl.Words
import ApiTree.Decl.Written
import ApiTree.Dump.Docstring
import ApiTree.Dump.Object
import ApiTree.Dump.Reader
import ApiTree.Files.Disk
import ApiTree.Files.Fault
import ApiTree.Hint.Constant
import ApiTree.Hint.Descriptor
import ApiTree.Hint.Expr
import ApiTree.Hint.Formatted
import ApiTree.Hint.Grammar
import ApiTree.Hint.Interpreter
import ApiTree.Hint.Lexer
import ApiTree.Hint.Literal
import ApiTree.Hint.Numeral
import ApiTree.Hint.Quote
import ApiTree.Hint.Standard
import ApiTree.Hint.Token
import ApiTree.Hint.Trouble
import ApiTree.Interp.Discovery
import ApiTree.Interp.Launch
import ApiTree.Interp.ParserError
import ApiTree.Interp.Response
import ApiTree.Interp.Trace
import ApiTree.Json.Decoder
import ApiTree.Json.Fault
import ApiTree.Json.Lexeme
import ApiTree.Json.Message
import ApiTree.Json.Numeral
import ApiTree.Json.Printer
import ApiTree.Json.Quote
import ApiTree.Json.Tree
import ApiTree.Json.Value
import ApiTree.Main
import ApiTree.Number.Binary64
import ApiTree.Number.Shortest
import ApiTree.Proofs.Command.AllOrNothing
import ApiTree.Proofs.Command.CheckedSettings
import ApiTree.Proofs.Convert.Classes
import ApiTree.Proofs.Convert.Composition
import ApiTree.Proofs.Convert.Coverage
import ApiTree.Proofs.Convert.Declared
import ApiTree.Proofs.Convert.Descriptions
import ApiTree.Proofs.Convert.Documentation
import ApiTree.Proofs.Convert.Finishing
import ApiTree.Proofs.Convert.Grouping
import ApiTree.Proofs.Convert.Joining
import ApiTree.Proofs.Convert.Labels
import ApiTree.Proofs.Convert.LinkTargets
import ApiTree.Proofs.Convert.Links
import ApiTree.Proofs.Convert.Merging
import ApiTree.Proofs.Convert.Numbering
import ApiTree.Proofs.Convert.Overloads
import ApiTree.Proofs.Convert.Recorded
import ApiTree.Proofs.Convert.References
import ApiTree.Proofs.Convert.Roles
import ApiTree.Proofs.Convert.RootGroups
import ApiTree.Proofs.Convert.Sources
import ApiTree.Proofs.Convert.Symbols
import ApiTree.Proofs.Convert.Untyped
import ApiTree.Proofs.Convert.Walk
import ApiTree.Proofs.Convert.Wrappers
import ApiTree.Proofs.Decl.Alike
import ApiTree.Proofs.Decl.Everywhere
import ApiTree.Proofs.Decl.GroupOrder
import ApiTree.Proofs.Decl.Likeness
import ApiTree.Proofs.Decl.Numbering
import ApiTree.Proofs.Decl.Owned
import ApiTree.Proofs.Decl.Paths
import ApiTree.Proofs.Decl.RecordedPaths
import ApiTree.Proofs.Decl.Renaming
import ApiTree.Proofs.Decl.Renumbering
import ApiTree.Proofs.Decl.RoundTrip
import ApiTree.Proofs.Decl.Symbols
import ApiTree.Proofs.Decl.Targets
import ApiTree.Proofs.Decl.Tree
import ApiTree.Proofs.Decl.Unions
import ApiTree.Proofs.Decl.Words
import ApiTree.Proofs.Dump.Decoding
import ApiTree.Proofs.Dump.DecoratorTitles
import ApiTree.Proofs.Dump.Documents
import ApiTree.Proofs.Dump.FaultLines
import ApiTree.Proofs.Dump.Forms
import ApiTree.Proofs.Dump.Nulls
import ApiTree.Proofs.Files.Moving
import ApiTree.Proofs.Hierarchy.Agreement
import ApiTree.Proofs.Hierarchy.Apart
import ApiTree.Proofs.Hierarchy.Attribution
import ApiTree.Proofs.Hierarchy.Composition
import ApiTree.Proofs.Hierarchy.Covering
import ApiTree.Proofs.Hierarchy.Delivery
import ApiTree.Proofs.Hierarchy.Entries
import ApiTree.Proofs.Hierarchy.Evolution
import ApiTree.Proofs.Hierarchy.Filling
import ApiTree.Proofs.Hierarchy.Grounded
import ApiTree.Proofs.Hierarchy.Heritable
import ApiTree.Proofs.Hierarchy.Independence
import ApiTree.Proofs.Hierarchy.Injecting
import ApiTree.Proofs.Hierarchy.Links
import ApiTree.Proofs.Hierarchy.Listing
import ApiTree.Proofs.Hierarchy.Matching
import ApiTree.Proofs.Hierarchy.Nesting
import ApiTree.Proofs.Hierarchy.Order
import ApiTree.Proofs.Hierarchy.Origins
import ApiTree.Proofs.Hierarchy.Presentation
import ApiTree.Proofs.Hierarchy.Propagation
import ApiTree.Proofs.Hierarchy.Provenance
import ApiTree.Proofs.Hierarchy.Rearranged
import ApiTree.Proofs.Hierarchy.Reference
import ApiTree.Proofs.Hierarchy.Relinking
import ApiTree.Proofs.Hierarchy.Reordering
import ApiTree.Proofs.Hierarchy.Reported
import ApiTree.Proofs.Hierarchy.Search
import ApiTree.Proofs.Hierarchy.Standing
import ApiTree.Proofs.Hierarchy.Survival
import ApiTree.Proofs.Hierarchy.TakingOver
import ApiTree.Proofs.Hierarchy.Top
import ApiTree.Proofs.Hierarchy.Twins
import ApiTree.Proofs.Hint.Escapes
import ApiTree.Proofs.Hint.Forming
import ApiTree.Proofs.Hint.Typed
import ApiTree.Proofs.Hint.UnionForms
import ApiTree.Proofs.Hint.Writing
import ApiTree.Proofs.Hint.WritingOut
import ApiTree.Proofs.Interp.Aliases
import ApiTree.Proofs.Interp.Batch
import ApiTree.Proofs.Interp.Candidates
import ApiTree.Proofs.Interp.Encoding
import ApiTree.Proofs.Json.Bare
import ApiTree.Proofs.Json.Broken
import ApiTree.Proofs.Json.Digits
import ApiTree.Proofs.Json.Embedding
import ApiTree.Proofs.Json.LeavingOut
import ApiTree.Proofs.Json.Lexing
import ApiTree.Proofs.Json.Members
import ApiTree.Proofs.Json.Numerals
import ApiTree.Proofs.Json.Quoting
import ApiTree.Proofs.Json.Reading
import ApiTree.Proofs.Json.Replacing
import ApiTree.Proofs.Resolve.Aliases
import ApiTree.Proofs.Resolve.Cleaning
import ApiTree.Proofs.Resolve.Expansion
import ApiTree.Proofs.Resolve.Pending
import ApiTree.Proofs.Resolve.Placeholders
import ApiTree.Proofs.Text.Lines
import ApiTree.Proofs.Text.Trimming
import ApiTree.Resolve.Expression
import ApiTree.Resolve.Pending
import ApiTree.Shell.Bytes
import ApiTree.Shell.Command
import ApiTree.Shell.Escape
import ApiTree.Shell.Program
import ApiTree.Shell.Run
import ApiTree.Shell.State
import ApiTree.Shell.Token
import ApiTree.Shell.Word
import ApiTree.Text.Blank
import ApiTree.Text.CharacterName
import ApiTree.Text.CharacterNameTable
import ApiTree.Text.Identifier
import ApiTree.Text.Normal
import ApiTree.Text.NormalTable
import ApiTree.Text.Quoted
import ApiTree.Text.Visible
