import TaskMonitor.Detail.Session
import TaskMonitor.Display.Amount
import TaskMonitor.Display.Preview
import TaskMonitor.Main
import TaskMonitor.Proofs.Stream.Manager
import TaskMonitor.Stream.Description
import TaskMonitor.Stream.Session
import TaskMonitor.Proofs.Stream.Lifecycle
import TaskMonitor.Proofs.Detail.Following
import TaskMonitor.Proofs.Detail.Rest
import TaskMonitor.Proofs.EventStream.Blocks
import TaskMonitor.Proofs.Number.Unsigned
import TaskMonitor.Proofs.EventStream.Rendering
import TaskMonitor.Proofs.Stream.Subscription
import TaskMonitor.Proofs.Detail.Hearing
import TaskMonitor.Proofs.Detail.Resumption
import TaskMonitor.Proofs.Backend.Navigation
import TaskMonitor.Proofs.Timeline.Indexing
import TaskMonitor.Proofs.EventStream.Grammar
import TaskMonitor.Proofs.Stream.Transcript
import TaskMonitor.Proofs.Detail.Lifecycle
import TaskMonitor.Proofs.Timeline.Statuses
import TaskMonitor.Proofs.Timeline.Convergence
import TaskMonitor.Proofs.Detail.Provenance
import TaskMonitor.Proofs.Stream.Closing
import TaskMonitor.Proofs.Threads.Agreement
import TaskMonitor.Proofs.Threads.Delivery
import TaskMonitor.Proofs.Threads.Leaving
import TaskMonitor.Proofs.App.Screen
import TaskMonitor.Proofs.Detail.Advance
import TaskMonitor.Proofs.Detail.Ending
import TaskMonitor.Proofs.Stream.Reconnecting
import TaskMonitor.Proofs.Stream.Messages
import TaskMonitor.Proofs.Task.RoundTrip
import TaskMonitor.Proofs.Json.Fields
import TaskMonitor.Proofs.Json.Readable
import TaskMonitor.Proofs.Json.Splitting
import TaskMonitor.Proofs.Json.Objects
import TaskMonitor.Proofs.Task.Fields
import TaskMonitor.Proofs.Task.Envelope
import TaskMonitor.Proofs.Task.Reordering
import TaskMonitor.Proofs.EventStream.Recovery
import TaskMonitor.Proofs.Stream.Slot
import TaskMonitor.Proofs.Text.Fitting
import TaskMonitor.Proofs.Gateway.Targets
import TaskMonitor.Proofs.Display.Preview
import TaskMonitor.Proofs.Drawing.Artifacts
import TaskMonitor.Proofs.Drawing.Scrolling
import TaskMonitor.Proofs.Gateway.Refusals
import TaskMonitor.Proofs.Display.Size
import TaskMonitor.Proofs.Stream.Connecting
