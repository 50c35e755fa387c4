import BrokenLinks.Main
import BrokenLinks.Proofs.Command.Check
import BrokenLinks.Proofs.Command.Delivery
import BrokenLinks.Proofs.Command.Output
import BrokenLinks.Proofs.Command.Result
import BrokenLinks.Proofs.Command.Safety
import BrokenLinks.Proofs.Command.Switches
import BrokenLinks.Proofs.Document.Canonical
import BrokenLinks.Proofs.Document.Piece
import BrokenLinks.Proofs.Document.Place
import BrokenLinks.Proofs.Document.Reading
import BrokenLinks.Proofs.Document.Resumption
import BrokenLinks.Proofs.FileTree.Dangling
import BrokenLinks.Proofs.FileTree.Elsewhere
import BrokenLinks.Proofs.FileTree.Entry
import BrokenLinks.Proofs.FileTree.Extension
import BrokenLinks.Proofs.FileTree.Membership
import BrokenLinks.Proofs.FileTree.Order
import BrokenLinks.Proofs.FileTree.Pages
import BrokenLinks.Proofs.FileTree.Passage
import BrokenLinks.Proofs.FileTree.Shown
import BrokenLinks.Proofs.FileTree.Subdirectories
import BrokenLinks.Proofs.Json.Grammar
import BrokenLinks.Proofs.Json.Printed
import BrokenLinks.Proofs.Json.Reader
import BrokenLinks.Proofs.Repair.AddedPages
import BrokenLinks.Proofs.Repair.Convergence
import BrokenLinks.Proofs.Repair.Copying
import BrokenLinks.Proofs.Repair.Growth
import BrokenLinks.Proofs.Repair.Kept
import BrokenLinks.Proofs.Repair.Piecewise
import BrokenLinks.Proofs.Repair.Placeholder
import BrokenLinks.Proofs.Repair.Promise
import BrokenLinks.Proofs.Repair.Residue
import BrokenLinks.Proofs.Repair.Respelling
import BrokenLinks.Proofs.Repair.SecondPass
import BrokenLinks.Proofs.Repair.Settlement
import BrokenLinks.Proofs.Report.Counters
import BrokenLinks.Proofs.Report.History
import BrokenLinks.Proofs.Report.Lossless
import BrokenLinks.Proofs.Run.AddedLinks
import BrokenLinks.Proofs.Run.Attempts
import BrokenLinks.Proofs.Run.Course
import BrokenLinks.Proofs.Run.DryRun
import BrokenLinks.Proofs.Run.Extension
import BrokenLinks.Proofs.Run.Forecast
import BrokenLinks.Proofs.Run.Independence
import BrokenLinks.Proofs.Run.Interruption
import BrokenLinks.Proofs.Run.Interval
import BrokenLinks.Proofs.Run.Keeping
import BrokenLinks.Proofs.Run.NoDirectory
import BrokenLinks.Proofs.Run.Pool
import BrokenLinks.Proofs.Run.Rerun
import BrokenLinks.Proofs.Run.Sequence
import BrokenLinks.Proofs.Run.Story
import BrokenLinks.Proofs.Run.Together
import BrokenLinks.Proofs.Run.Trace
import BrokenLinks.Proofs.Run.Visit
import BrokenLinks.Proofs.Text.Measure
import BrokenLinks.Proofs.Text.Replacement
import BrokenLinks.Proofs.Text.Search
import BrokenLinks.Proofs.Text.Slice
