import Vtest.Model.Words
import Vtest.Model.State
import Vtest.Model.Pool
import Vtest.Model.Signal
import Vtest.Model.SyncCommands
import Vtest.Model.Submit
import Vtest.Model.Context
import Vtest.Model.Step
import Vtest.Model.Transfer
import Vtest.Model.Cleanup
import Vtest.Model.Stream
import Vtest.Model.BusyWait
import Vtest.Model.Replies
import Vtest.Verification.Ledger
import Vtest.Verification.Refs
import Vtest.Verification.Frame
import Vtest.Verification.Signal
import Vtest.Verification.SyncInv
import Vtest.Verification.SubmitInv
import Vtest.Verification.ContextInv
import Vtest.Verification.Reachable
import Vtest.Verification.WaitInv
import Vtest.Verification.WaitSteps
import Vtest.Verification.QueueInv
import Vtest.Verification.Isolation
import Vtest.Verification.Values
import Vtest.Verification.Records
import Vtest.Verification.Protocol
import Vtest.Properties.References
import Vtest.Properties.Contexts
import Vtest.Properties.Waits
import Vtest.Properties.Queues
import Vtest.Properties.Payload
import Vtest.Properties.Resources
import Vtest.Properties.Submits
import Vtest.Properties.Isolation
import Vtest.Properties.Timelines
import Vtest.Properties.Records
import Vtest.Properties.Stream
import Vtest.Properties.Protocol
import Vtest.Properties.BusyWait
