import LayoutCheck.Main
import LayoutCheck.Proofs.Canonical.Insertion
import LayoutCheck.Proofs.CommandLine.RoundTrip
import LayoutCheck.Proofs.Config.Decoding
import LayoutCheck.Proofs.Diff.Cursor
import LayoutCheck.Proofs.Diff.Minimality
import LayoutCheck.Proofs.Program.Deadline
import LayoutCheck.Proofs.Report.Headlines
import LayoutCheck.Proofs.Verdict
