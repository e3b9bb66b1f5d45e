import StreamWindow.Alike
import StreamWindow.Clause.Reader
import StreamWindow.Explanation
import StreamWindow.HumanDuration
import StreamWindow.Plan
import StreamWindow.Run
import StreamWindow.Data
import StreamWindow.Toml.Document
import StreamWindow.Configuration.Decode
import StreamWindow.FileTree
import StreamWindow.CommandLine.Session
import StreamWindow.Main
import StreamWindow.Proofs.RoundTrip
import StreamWindow.Proofs.Planning
import StreamWindow.Proofs.GroupedRun
import StreamWindow.Proofs.Coverage
import StreamWindow.Proofs.Refusal
import StreamWindow.Proofs.Congruence
import StreamWindow.Proofs.SessionRun
import StreamWindow.Proofs.Hints
import StreamWindow.Proofs.Commands
import StreamWindow.Proofs.Objections
import StreamWindow.Proofs.Lowering
import StreamWindow.Proofs.Checking
import StreamWindow.Proofs.NormalForm
import StreamWindow.Proofs.Places
import StreamWindow.Proofs.Lengths
import StreamWindow.Proofs.Directives
import StreamWindow.Proofs.Scanning
import StreamWindow.Proofs.Filtering
import StreamWindow.Proofs.Literals
import StreamWindow.Proofs.Settings
