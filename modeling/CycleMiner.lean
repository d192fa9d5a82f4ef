import CycleMiner.Graph.Verify
import CycleMiner.Graph.Recovery
import CycleMiner.Table.Insertion
import CycleMiner.Work
import CycleMiner.Decimal.Shortest
import CycleMiner.Decimal.Fixed
import CycleMiner.Json.Parser
import CycleMiner.Json.Printer
import CycleMiner.Template.Reader
import CycleMiner.Template.Writer
import CycleMiner.Fault
import CycleMiner.Event.Exchange
import CycleMiner.Job.Worker
import CycleMiner.Poller.Loop
import CycleMiner.Node.Source
import CycleMiner.Node.Submitter
import CycleMiner.Host.Folder
import CycleMiner.Main
import CycleMiner.Proofs.Block.Evidence
import CycleMiner.Proofs.Block.Merkle
import CycleMiner.Proofs.Target.Order
import CycleMiner.Proofs.Work.WellFormed
import CycleMiner.Proofs.Job.Connection
import CycleMiner.Proofs.Job.Coverage
import CycleMiner.Proofs.Job.Anomaly
import CycleMiner.Proofs.Job.Relinking
import CycleMiner.Proofs.Event.Listeners
import CycleMiner.Proofs.Template.Decoding
import CycleMiner.Proofs.Node.Replies
import CycleMiner.Proofs.Node.Verdicts
import CycleMiner.Proofs.Poller.Shutdown
import CycleMiner.Proofs.Scheduler.Halting
import CycleMiner.Proofs.Settings.Preferences
import CycleMiner.Proofs.Settings.Votes
import CycleMiner.Proofs.Table.Meeting
