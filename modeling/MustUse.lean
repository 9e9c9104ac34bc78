import MustUse.Main
import MustUse.Proofs.Scan.Context
import MustUse.Proofs.Syntax.TreePath
import MustUse.Proofs.Scan.Discarded
import MustUse.Proofs.Marker.Declaration
import MustUse.Proofs.Marker.Reading
import MustUse.Proofs.Marker.Table
import MustUse.Proofs.Marker.Accounting
import MustUse.Proofs.Marker.Facts
import MustUse.Proofs.Host.Agreement
import MustUse.Proofs.Spec.Listed
import MustUse.Proofs.Host.Coverage
import MustUse.Proofs.Marker.Transport
import MustUse.Proofs.Host.Generated
import MustUse.Proofs.Host.Schedule
import MustUse.Proofs.Report.Stability
import MustUse.Proofs.Host.Reordering
import MustUse.Proofs.Syntax.Alike
import MustUse.Proofs.Scan.Documentation
import MustUse.Proofs.Marker.Addition
import MustUse.Proofs.Scan.Marking
import MustUse.Proofs.Command.Outcome
import MustUse.Proofs.Syntax.Spine
import MustUse.Proofs.Scan.Positions
import MustUse.Proofs.Syntax.SlotTypes
import MustUse.Proofs.Scan.Statements
import MustUse.Proofs.Syntax.Grouping
import MustUse.Proofs.Scan.Grouping
import MustUse.Proofs.Syntax.Origins
import MustUse.Proofs.Marker.Origins
import MustUse.Proofs.Scan.Origins
import MustUse.Proofs.Spec.RoundTrip
import MustUse.Proofs.Marker.Name
import MustUse.Proofs.Text.Occurrence
import MustUse.Proofs.Scan.Entries
import MustUse.Proofs.Marker.Directive
import MustUse.Proofs.Marker.FollowingComment
import MustUse.Proofs.Text.Octets
import MustUse.Proofs.Report.Merge
import MustUse.Proofs.Marker.Encoding
import MustUse.Proofs.Spec.Receiver
import MustUse.Proofs.Config.Discovery
import MustUse.Proofs.Render.Written
import MustUse.Proofs.Spec.LetterCase
import MustUse.Proofs.Text.Decimal
import MustUse.Proofs.Render.Unambiguous
import MustUse.Proofs.Scan.Callee
import MustUse.Proofs.Host.Run
