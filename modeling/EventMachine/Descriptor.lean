import EventMachine.Program

/-!
# The base class `EventableDescriptor`

The close state machine (`Close`, `ScheduleClose`, `ShouldDelete`), the heartbeat deadline,
and the proxy link, together with the reactor calls these methods make. The reactor's
heartbeat queue is a list of `(deadline, binding)` entries standing for its multimap.
-/

namespace EventMachine

namespace EventableDescriptor

/-- `GetOutboundDataSize`: the queued byte count of a connection or datagram socket; the
other subclasses queue nothing. -/
def getOutboundDataSize (d : EventableDescriptor) : Int :=
  match d.sub with
  | .connection c => c.outboundDataSize
  | .datagram g => g.outboundDataSize
  | _ => 0

/-- `IsCloseScheduled`. -/
def isCloseScheduled (d : EventableDescriptor) : Bool :=
  d.bCloseNow || d.bCloseAfterWriting

/-- `ShouldDelete`: the socket is gone, an immediate close is scheduled, or a close after
writing is scheduled and nothing is left to write. -/
def shouldDelete (d : EventableDescriptor) : Bool :=
  d.mySocket == invalidSocket || d.bCloseNow ||
    (d.bCloseAfterWriting && decide (d.getOutboundDataSize ≤ 0))

/-- `IsConnectPending`: only a connection can be waiting for its connect. -/
def isConnectPending (d : EventableDescriptor) : Bool :=
  match d.sub with
  | .connection c => c.bConnectPending
  | _ => false

/-- The interval `GetNextHeartbeat` waits: the inactivity timeout, replaced by the
pending-connect timeout while a connect is pending and that one is set and smaller, or the
inactivity timeout is `0`. -/
def timeTilNext (d : EventableDescriptor) : UInt64 :=
  if d.isConnectPending ∧ (d.inactivityTimeout = 0 ∨ d.pendingConnectTimeout < d.inactivityTimeout)
  then d.pendingConnectTimeout else d.inactivityTimeout

end EventableDescriptor

/-! ## The reactor calls the base class makes -/

/-- Modelled from the spec: `EventMachine_t::Deregister`, in em.cpp (not under src/), drops the
descriptor from the poll set; it is recorded in the trace. -/
def deregister (b : Binding) : EM Unit := emit (.deregister b)

/-- Modelled from the spec: `EventMachine_t::Modify`, in em.cpp (not under src/), pushes the
descriptor's interest to the poller; it is recorded in the trace. -/
def modifyInterest (b : Binding) : EM Unit := emit (.modify b)

/-- Modelled from the spec: `EventMachine_t::ClearHeartbeat (key, ed)`, in em.cpp (not under
src/), erases one `(key, ed)` entry of the heartbeat queue. -/
def clearHeartbeat (key : UInt64) (b : Binding) : EM Unit :=
  modify fun r => { r with heartbeats := r.heartbeats.erase (key, b) }

namespace EventableDescriptor

/-- `EventableDescriptor::Close`: leave the poll set before the handle is released, never
release 0, 1, 2 or an attached handle, and mark the socket invalid. -/
def close (self : Binding) : EM Unit := do
  let d ← descriptor self
  if d.mySocket ≠ invalidSocket then
    deregister self
    if d.mySocket > 2 ∧ !d.bAttached then
      emit (.shutdown d.mySocket)
      emit (.close d.mySocket)
    modifyDescriptor self fun d => { d with mySocket := invalidSocket }

/-- `EventableDescriptor::ScheduleClose`: count a first request in `NumCloseScheduled`, and
let a later immediate request upgrade a close after writing. -/
def scheduleClose (self : Binding) (afterWriting : Bool) : EM Unit := do
  let d ← descriptor self
  if d.isCloseScheduled then
    if !afterWriting then
      modifyDescriptor self fun d => { d with bCloseNow := true }
  else
    modify fun r => { r with numCloseScheduled := r.numCloseScheduled + 1 }
    if afterWriting then
      modifyDescriptor self fun d => { d with bCloseAfterWriting := true }
    else
      modifyDescriptor self fun d => { d with bCloseNow := true }

/-- `GetNextHeartbeat`: drop the queued deadline, then compute the next one unless the
descriptor is about to be deleted or has no timeout. -/
def getNextHeartbeat (self : Binding) : EM UInt64 := do
  let d ← descriptor self
  if d.nextHeartbeat ≠ 0 then
    clearHeartbeat d.nextHeartbeat self
  modifyDescriptor self fun d => { d with nextHeartbeat := 0 }
  let d ← descriptor self
  if !d.shouldDelete then
    if d.timeTilNext = 0 then
      return 0
    let now ← getRealTime
    modifyDescriptor self fun d => { d with nextHeartbeat := d.timeTilNext + now }
  return (← descriptor self).nextHeartbeat

end EventableDescriptor

/-- Modelled from the spec: `EventMachine_t::QueueHeartbeat (ed)`, in em.cpp (not under src/),
inserts `(ed->GetNextHeartbeat (), ed)` into the heartbeat queue when that deadline is
nonzero. -/
def queueHeartbeat (b : Binding) : EM Unit := do
  let heartbeat ← EventableDescriptor.getNextHeartbeat b
  if heartbeat ≠ 0 then
    modify fun r => { r with heartbeats := r.heartbeats ++ [(heartbeat, b)] }

namespace EventableDescriptor

/-- `SetPendingConnectTimeout`: milliseconds, stored in microseconds. -/
def setPendingConnectTimeout (self : Binding) (value : UInt64) : EM Int := do
  if value > 0 then
    modifyDescriptor self fun d => { d with pendingConnectTimeout := value * 1000 }
    queueHeartbeat self
    return 1
  return 0

/-! ## The proxy link -/

/-- `SetProxiedFrom`: a target takes a new source only when it has none. -/
def setProxiedFrom (self : Binding) (src : Option Binding) (bufsize : Nat) : EM Unit := do
  let d ← descriptor self
  if src.isSome ∧ d.proxiedFrom.isSome then
    throw (.runtimeError "Tried to proxy to a busy target")
  modifyDescriptor self fun d => { d with proxiedFrom := src, maxOutboundBufSize := bufsize }

/-- `StopProxy`: unlink the target, then forget it. -/
def stopProxy (self : Binding) : EM Unit := do
  if let some t := (← descriptor self).proxyTarget then
    setProxiedFrom t none 0
    modifyDescriptor self fun d => { d with proxyTarget := none }

/-- `StartProxy (to, bufsize, length)`: look the target up by binding, drop any current
target, then link to the new one. -/
def startProxy (self target : Binding) (bufsize length : Nat) : EM Unit := do
  match (← get).descriptors target with
  | some _ =>
    stopProxy self
    modifyDescriptor self fun d =>
      { d with proxyTarget := some target, bytesToProxy := length, proxiedBytes := 0 }
    setProxiedFrom target (some self) bufsize
  | none => throw (.runtimeError "Tried to proxy to an invalid descriptor")

end EventableDescriptor

end EventMachine
