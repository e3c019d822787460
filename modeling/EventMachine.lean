import EventMachine.Basic
import EventMachine.Program
import EventMachine.Descriptor
import EventMachine.Interest
import EventMachine.Outbound
import EventMachine.Send
import EventMachine.Api
import EventMachine.Connection
import EventMachine.Datagram
import EventMachine.Lifecycle
import EventMachine.Reactor
import EventMachine.Stream
import EventMachine.Evolution
import EventMachine.Timers
import EventMachine.Closing
import EventMachine.Proxy
import EventMachine.Handles
import EventMachine.ProxyDispatch
import EventMachine.PollInterest
import EventMachine.PollSteps
import EventMachine.PollRuns
import EventMachine.Ledger
import EventMachine.LedgerRuns
import EventMachine.Readiness
import EventMachine.DatagramQueue
import EventMachine.Handshake
import EventMachine.CiphertextLoop
