import PartDefs.OrderedMap
import PartDefs.Descriptor
import PartDefs.Decimal.Double
import PartDefs.Decimal.Shortest
import PartDefs.Text.Letter
import PartDefs.Text.Printable
import PartDefs.Text.Style
import PartDefs.Text.Quoted
import PartDefs.Text.Blank
import PartDefs.Text.Newlines
import PartDefs.Descriptor.Reader
import PartDefs.Notice
import PartDefs.Traced
import PartDefs.Part
import PartDefs.Resolution
import PartDefs.Config
import PartDefs.Luau.Declaration
import PartDefs.Luau.PortLookup
import PartDefs.Assembly
import PartDefs.Path
import PartDefs.SystemError
import PartDefs.Access
import PartDefs.FileTree
import PartDefs.Failure
import PartDefs.Project
import PartDefs.Log.Pattern.Mode
import PartDefs.Log.Pattern.Escape
import PartDefs.Log.Pattern.Class
import PartDefs.Log.Pattern.Expression
import PartDefs.Log.Pattern
import PartDefs.Log.Directive
import PartDefs.Log.Filter
import PartDefs.Log
import PartDefs.CommandLine.Help
import PartDefs.CommandLine.Arguments
import PartDefs.Program
import PartDefs.Main
import PartDefs.Proofs.Entries
import PartDefs.Proofs.Lineage
import PartDefs.Proofs.Resolution.Completion
import PartDefs.Proofs.Resolution.Invariant
import PartDefs.Proofs.Resolution.Walk
import PartDefs.Proofs.Resolution.Outcome
import PartDefs.Proofs.Resolution.Members
import PartDefs.Proofs.Resolution.Paths
import PartDefs.Proofs.Resolution.Excerpt
import PartDefs.Proofs.Text.Lines
import PartDefs.Proofs.Text.Blocks
import PartDefs.Proofs.Text.Runs
import PartDefs.Proofs.Layout
import PartDefs.Proofs.Luau.Plain
import PartDefs.Proofs.Luau.Lines
import PartDefs.Proofs.Luau.Readability
import PartDefs.Proofs.Luau.Files
import PartDefs.Proofs.FileTree.Growth
import PartDefs.Proofs.Atomicity
import PartDefs.Proofs.FileTree.Retrace
import PartDefs.Proofs.Rewriting
import PartDefs.Proofs.Regeneration
import PartDefs.Proofs.Luau.Lookups
import PartDefs.Proofs.Verdict
import PartDefs.Proofs.Resolution.Chronicle
import PartDefs.Proofs.Json.Outcome
import PartDefs.Proofs.Json.Letters
import PartDefs.Proofs.Json.Value
import PartDefs.Proofs.Json.Passing
import PartDefs.Proofs.Json.Meaning
import PartDefs.Proofs.Json.Members
import PartDefs.Proofs.Descriptor.Meaning
import PartDefs.Proofs.Descriptor.Shape
import PartDefs.Proofs.Descriptor.Spelling
import PartDefs.Proofs.Resolution.Bare
import PartDefs.Proofs.Luau.Configure
import PartDefs.Proofs.Luau.Literals
import PartDefs.Proofs.Resolution.Moments
import PartDefs.Proofs.Luau.MemberNames
import PartDefs.Proofs.Resolution.Calls
import PartDefs.Proofs.Path.Siblings
import PartDefs.Proofs.CommandLine.Spelling
import PartDefs.Proofs.Program
