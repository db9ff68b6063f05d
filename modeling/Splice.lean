import Splice.Files.Memory
import Splice.Main
import Splice.Proofs.Directive.Grammar
import Splice.Proofs.Path.Absolute
import Splice.Proofs.Session.Agreement
import Splice.Proofs.Session.Calls
import Splice.Proofs.Session.Coherence
import Splice.Proofs.Session.Depth
import Splice.Proofs.Session.Lookups
import Splice.Proofs.Session.Order
import Splice.Proofs.Session.Policies
import Splice.Proofs.Session.Reachability
import Splice.Proofs.Source.Blocks
import Splice.Proofs.Text.Marks
import Splice.Proofs.Source.Stripping
import Splice.Proofs.Session.Independence
import Splice.Proofs.Environment.Changes
import Splice.Proofs.Files.Writing
import Splice.Proofs.Files.Names
import Splice.Proofs.Project.Footprint
import Splice.Proofs.Command.Rebuild
import Splice.Proofs.Session.Growth
import Splice.Proofs.Session.Provided
import Splice.Proofs.Template.Filling
import Splice.Proofs.Source.Rendering
import Splice.Proofs.Search.Priority
import Splice.Proofs.Search.Spellings
import Splice.Proofs.Search.Aliases
import Splice.Proofs.Session.Fallback
import Splice.Proofs.Table
import Splice.Proofs.Environment.Precedence
import Splice.Proofs.Session.Failures
import Splice.Proofs.Session.Cycles
import Splice.Proofs.Text.Lines
import Splice.Proofs.Source.Survivors
import Splice.Proofs.Files.Memory
import Splice.Proofs.Path.Canonical
import Splice.Proofs.Number.Digits
import Splice.Proofs.Template.Addresses
import Splice.Proofs.Template.Integers
import Splice.Proofs.Search.Watching
import Splice.Proofs.Config.Constants
import Splice.Proofs.Template.Literals
import Splice.Proofs.Session.Output
