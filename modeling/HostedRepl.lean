import HostedRepl.Client
import HostedRepl.Main
import HostedRepl.Proofs.Wire.Grammar
import HostedRepl.Proofs.Wire.RoundTrip
import HostedRepl.Proofs.Bridge.Site
import HostedRepl.Proofs.Bridge.Queue
import HostedRepl.Proofs.Bridge.Labour
import HostedRepl.Proofs.Wire.Message
import HostedRepl.Proofs.Bridge.Answer
import HostedRepl.Proofs.Bridge.Delivery
import HostedRepl.Proofs.Bridge.Upkeep
import HostedRepl.Proofs.Lisp.Height
import HostedRepl.Proofs.Lisp.Termination
import HostedRepl.Proofs.Bridge.Ownership
import HostedRepl.Proofs.Wire.Canonical
import HostedRepl.Proofs.Scheduler.Conservation
import HostedRepl.Proofs.Server.Lifecycle
import HostedRepl.Proofs.Lisp.DepthLimit
import HostedRepl.Proofs.Lisp.Piecewise
import HostedRepl.Proofs.Lisp.History
import HostedRepl.Proofs.Server.Shutdown
import HostedRepl.Proofs.Bridge.Batches
import HostedRepl.Proofs.Bridge.CloseReply
import HostedRepl.Proofs.Bridge.Frames
import HostedRepl.Proofs.Wire.Incremental
import HostedRepl.Proofs.Wire.Requests
import HostedRepl.Proofs.Server.Roster
import HostedRepl.Proofs.Bridge.Loop
import HostedRepl.Proofs.Server.Service
import HostedRepl.Proofs.Scheduler.Unregistering
import HostedRepl.Proofs.Wire.Prefix
import HostedRepl.Proofs.Lisp.Completion
import HostedRepl.Proofs.Lisp.Entered
import HostedRepl.Proofs.Lisp.Switching
import HostedRepl.Proofs.Lisp.Definition
import HostedRepl.Proofs.Lisp.Range
import HostedRepl.Proofs.Lisp.Division
import HostedRepl.Proofs.Lisp.Arithmetic
import HostedRepl.Proofs.Scheduler.Exactness
import HostedRepl.Proofs.Lisp.Equality
import HostedRepl.Proofs.Client
import HostedRepl.Proofs.Bridge.Spelling
import HostedRepl.Proofs.Config.Interval
