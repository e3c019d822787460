import EventMachine.Connection

/-!
# The poll-driven methods of a datagram socket

`Read` receives a burst of at most ten datagrams, each dispatched with its sender recorded
as the reply address. `Write` sends at most ten queued datagrams; each leaves the queue
whatever the kernel says, since a datagram is sent whole or not at all.
-/

namespace EventMachine

/-- What one `recvfrom` returned: a datagram, possibly empty, with its sender; or `-1`. -/
inductive RecvResult
  | datagram (data : List Byte) (sender : SockAddr)
  | error
  deriving DecidableEq, Repr

namespace DatagramDescriptor

/-- `DatagramDescriptor::SelectForWrite`: any queued datagram, empty ones included. -/
def selectForWrite (g : DatagramDescriptor) : Bool := decide (g.outboundPages.length > 0)

/-- The burst loop of `Read`, with `n` receives left. -/
def readLoop (app : App) (self : Binding) (sd : Int) : Nat → List RecvResult → EM Unit
  | 0, _ => pure ()
  | n + 1, results => do
    emit (.recv sd)
    match results.headD .error with
    | .datagram data sender =>
      modifyDatagram self fun g => { g with returnAddress := sender }
      EventableDescriptor.genericInboundDispatch app self data
      readLoop app self sd n results.tail
    | .error => pure ()

/-- `DatagramDescriptor::Read`. -/
def read (app : App) (self : Binding) (results : List RecvResult) : EM Unit := do
  let sd := (← descriptor self).mySocket
  if sd = invalidSocket then throw (.assertionFailed "sd != INVALID_SOCKET")
  let now ← getCurrentLoopTime
  modifyDescriptor self fun d => { d with lastActivity := now }
  readLoop app self sd readBurst results

/-- The send loop of `Write`, with `n` sends left: pop the front datagram whatever `sendto`
returns, and stop on a fatal error after closing. -/
def writeLoop (self : Binding) (sd : Int) : Nat → List SyscallResult → EM Unit
  | 0, _ => pure ()
  | n + 1, results => do
    match (← datagram self).outboundPages with
    | [] => pure ()
    | op :: _ =>
      let r := results.headD ⟨-1, eagain⟩
      if r.ret ≥ 0 then emit (.send sd op.buffer)
      modifyDatagram self fun g => { g with
        outboundDataSize := g.outboundDataSize - op.buffer.length
        outboundPages := g.outboundPages.tail }
      if r.ret = -1 ∧ !transientWriteErrno r.errno then
        modifyDescriptor self fun d => { d with unbindReasonCode := r.errno }
        EventableDescriptor.close self
      else
        writeLoop self sd n results.tail

/-- `DatagramDescriptor::Write`: send, then rearm `EPOLLOUT` while datagrams remain. -/
def write (self : Binding) (results : List SyscallResult) : EM Unit := do
  let sd := (← descriptor self).mySocket
  if sd = invalidSocket then throw (.assertionFailed "sd != INVALID_SOCKET")
  let now ← getCurrentLoopTime
  modifyDescriptor self fun d => { d with lastActivity := now }
  if (← datagram self).outboundPages.length = 0 then
    throw (.assertionFailed "OutboundPages.size() > 0")
  writeLoop self sd readBurst results
  let g ← datagram self
  modifyDescriptor self fun d =>
    { d with epollEvents := if selectForWrite g then epollIn ||| epollOut else epollIn }
  modifyInterest self

/-- `DatagramDescriptor::Heartbeat`: close a socket idle for its inactivity timeout. -/
def heartbeat (self : Binding) : EM Unit := do
  let d ← descriptor self
  let now ← getCurrentLoopTime
  if d.inactivityTimeout ≠ 0 ∧ now - d.lastActivity ≥ d.inactivityTimeout then
    EventableDescriptor.scheduleClose self false

end DatagramDescriptor

end EventMachine
