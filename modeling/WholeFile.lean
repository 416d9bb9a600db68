import WholeFile.Payload
import WholeFile.Text.Lossy
import WholeFile.Ring.Progress
import WholeFile.Driver.Basic
import WholeFile.Driver.Transfer
import WholeFile.Driver.WriteFile
import WholeFile.Driver.Scope
import WholeFile.Arena.Lookup
import WholeFile.Session
import WholeFile.Proofs.Machine.Before
import WholeFile.Proofs.Machine.Plain
import WholeFile.Proofs.Ring.Await
import WholeFile.Proofs.Ring.Settled
import WholeFile.Proofs.Ring.ExactlyOnce
import WholeFile.Proofs.Driver.Attempt
import WholeFile.Proofs.Driver.Reached
import WholeFile.Proofs.Machine.Files
import WholeFile.Proofs.Driver.Retry
import WholeFile.Proofs.Driver.Writing
import WholeFile.Proofs.Driver.Paired
import WholeFile.Proofs.Driver.Backends
import WholeFile.Proofs.Driver.Reading
import WholeFile.Proofs.Driver.Stored
import WholeFile.Proofs.Platform.Sound
import WholeFile.Proofs.Session.Sound
import WholeFile.Proofs.Session.Store
import WholeFile.Proofs.Driver.Revised
import WholeFile.Proofs.Driver.Retrieved
import WholeFile.Proofs.Arena.Versions
import WholeFile.Proofs.Platform.Operations
import WholeFile.Proofs.Platform.Handles
import WholeFile.Proofs.Platform.Native
import WholeFile.Proofs.Platform.Tandem
import WholeFile.Proofs.Machine.Descriptors
import WholeFile.Proofs.Driver.Closing
import WholeFile.Proofs.Session.Closing
import WholeFile.Proofs.Ring.Poison
import WholeFile.Proofs.Driver.Poisoned
import WholeFile.Proofs.Payload.Composition
import WholeFile.Proofs.Machine.Disturbed
import WholeFile.Proofs.Driver.Disturbed
import WholeFile.Proofs.Platform.Disturbed
import WholeFile.Proofs.Session.Interrupted
import WholeFile.Proofs.Buffer.Requests
import WholeFile.Proofs.Payload.Window
import WholeFile.Proofs.Payload.Inside
import WholeFile.Proofs.Session.Payloads
import WholeFile.Proofs.Driver.CallCount
import WholeFile.Proofs.Ring.CallCount
import WholeFile.Proofs.Ring.Growth
import WholeFile.Proofs.Payload.Ranges
import WholeFile.Proofs.Driver.Blocks
import WholeFile.Proofs.Driver.Remarks
import WholeFile.Proofs.Driver.Selection
import WholeFile.Proofs.Session.Keeping
import WholeFile.Proofs.Session.Selection
import WholeFile.Proofs.Driver.Reports
import WholeFile.Proofs.Driver.Making
import WholeFile.Proofs.Session.Operations
import WholeFile.Proofs.Platform.Reports
import WholeFile.Proofs.Session.Reports
import WholeFile.Proofs.Driver.ReadCount
import WholeFile.Proofs.Driver.LoopBounds
