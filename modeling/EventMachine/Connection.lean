import EventMachine.Api

/-!
# The poll-driven methods of a stream connection

`Read` reads a burst of at most ten chunks and dispatches each one at once, through the TLS
engine when one runs and then to the proxy target or the callback. `Write` finishes a pending
connect, reports writability of a watch-only socket, or flushes the outbound queue with
`_WriteOutboundData`. `HandleError` and `Heartbeat` turn errors and timeouts into closes.

The kernel's answers are arguments: the results of the reads of a burst, the result of the
`writev` or `write`, and what `getsockopt (SO_ERROR)` reports on a connecting socket.
-/

namespace EventMachine

/-- What one `read` returned: the bytes it read (none at the end of the stream), or `-1` with
`errno`. -/
inductive ReadResult
  | bytes (data : List Byte)
  | error (errno : Int)
  deriving DecidableEq, Repr

/-- What a `write`, `writev` or `sendto` returned, and the `errno` it left. -/
structure SyscallResult where
  ret : Int
  errno : Int
  deriving DecidableEq, Repr

/-- What `getsockopt (SOL_SOCKET, SO_ERROR)` returned on a connecting socket, and the error it
reported. -/
structure ConnectStatus where
  ret : Int
  error : Int
  deriving DecidableEq, Repr

/-- The `errno` values after which `Read` stops its burst without closing. -/
def transientReadErrno (e : Int) : Bool :=
  e = einprogress || e = ewouldblock || e = eagain || e = eintr

/-- The `errno` values after which a failed write is retried on the next writable event. -/
def transientWriteErrno (e : Int) : Bool :=
  e = einprogress || e = ewouldblock || e = eintr

namespace EventableDescriptor

/-- `_GenericInboundDispatch`: forward to the proxy target while the byte limit allows (or
without limit), and deliver to the callback otherwise. When the limit is reached the proxy
stops, `EM_PROXY_COMPLETED` fires, and the rest of the chunk is delivered as ordinary data. -/
def genericInboundDispatch (app : App) (self : Binding) (buf : List Byte) : EM Unit := do
  let d ← descriptor self
  match d.proxyTarget with
  | some target =>
    if d.bytesToProxy > 0 then
      let proxied := min d.bytesToProxy buf.length
      discard <| Virtual.sendOutboundData target (.bytes (buf.take proxied))
      modifyDescriptor self fun d =>
        { d with proxiedBytes := d.proxiedBytes + proxied, bytesToProxy := d.bytesToProxy - proxied }
      if (← descriptor self).bytesToProxy = 0 then
        stopProxy self
        invokeCallback app self .proxyCompleted [] 0
        if proxied < buf.length then
          invokeCallback app self .connectionRead (buf.drop proxied) (buf.length - proxied)
    else
      discard <| Virtual.sendOutboundData target (.bytes buf)
      modifyDescriptor self fun d => { d with proxiedBytes := d.proxiedBytes + buf.length }
  | none => invokeCallback app self .connectionRead buf buf.length

end EventableDescriptor

namespace ConnectionDescriptor

/-- `_CheckHandshakeStatus`: signal a completed handshake once. -/
def checkHandshakeStatus (app : App) (self : Binding) : EM Unit := do
  let c ← connection self
  if c.sslBox.isSome ∧ !c.bHandshakeSignaled then
    if ← sslCall self SslBox.isHandshakeCompleted then
      modifyConnection self fun c => { c with bHandshakeSignaled := true }
      invokeCallback app self .sslHandshakeCompleted [] 0

/-- The plaintext loop of `_DispatchInboundData`: dispatch what the engine decrypts while it
yields some; returns the last `GetPlaintext` result. -/
def plaintextLoop (app : App) (self : Binding) : Nat → EM Int
  | 0 => return 0
  | fuel + 1 => do
    let (s, chunk) ← sslCall self SslBox.getPlaintext
    if s > 0 then
      checkHandshakeStatus app self
      EventableDescriptor.genericInboundDispatch app self chunk
      plaintextLoop app self fuel
    else return s

/-- `_DispatchInboundData`: with TLS, the chunk is ciphertext for the engine (`PutCiphertext`)
and the plaintext it yields is dispatched; a handshake failure records `EPROTO` and closes. -/
def dispatchInboundData (app : App) (self : Binding) (buffer : List Byte) : EM Unit := do
  match (← connection self).sslBox with
  | some box =>
    let s ← plaintextLoop app self (box.replies.length + 1)
    if s = -2 then
      modifyDescriptor self fun d => { d with unbindReasonCode := eproto }
      scheduleClose self false
      return
    checkHandshakeStatus app self
    dispatchCiphertext self
  | none => EventableDescriptor.genericInboundDispatch app self buffer

/-- The burst loop of `Read` on the handle `sd` it read at the start, with `n` reads left and
`total` bytes read so far; returns the total. -/
def readLoop (app : App) (self : Binding) (sd : Int) : Nat → List ReadResult → Int → EM Int
  | 0, _, total => return total
  | n + 1, results, total => do
    emit (.recv sd)
    match results.headD (.error eagain) with
    | .bytes [] => return total
    | .bytes data =>
      dispatchInboundData app self data
      if (← descriptor self).bPaused then return total + data.length
      readLoop app self sd n results.tail (total + data.length)
    | .error e =>
      if !transientReadErrno e then
        modifyDescriptor self fun d => { d with unbindReasonCode := e }
        EventableDescriptor.close self
      return total

/-- `ConnectionDescriptor::Read`. A read on a closed socket is tolerated once. A burst that
reads nothing means the peer closed. -/
def read (app : App) (self : Binding) (results : List ReadResult) : EM Unit := do
  let d ← descriptor self
  let sd := d.mySocket
  if sd = invalidSocket then
    if (← connection self).bReadAttemptedAfterClose then
      throw (.assertionFailed "!bReadAttemptedAfterClose")
    modifyConnection self fun c => { c with bReadAttemptedAfterClose := true }
    return
  if d.bWatchOnly then
    if (← connection self).bNotifyReadable then
      invokeCallback app self .connectionNotifyReadable [] 0
    return
  let now ← getCurrentLoopTime
  modifyDescriptor self fun d => { d with lastActivity := now }
  let total ← readLoop app self sd readBurst results 0
  if total = 0 then scheduleClose self false

/-- The backpressure release of `_WriteOutboundData`: resume the source once the queue is
below the proxy's threshold. -/
def releaseSource (self : Binding) : EM Unit := do
  let d ← descriptor self
  if let some src := d.proxiedFrom then
    if d.maxOutboundBufSize ≠ 0 ∧ unsignedInt d.getOutboundDataSize < d.maxOutboundBufSize then
      if (← descriptor src).bPaused then
        discard <| Virtual.resume src

/-- The end of `_WriteOutboundData` for the queue, once the kernel took `bytesWritten` bytes of
`buffer`, gathered from `pages`. With `writev`, the sent pages leave the queue; in the copy
build, the unsent tail of `output_buffer` is pushed back as a new front page. -/
def consumeOutbound (build : Build) (self : Binding) (pages : List OutboundPage)
    (buffer : List Byte) (bytesWritten : Nat) (err : Bool) : EM Unit :=
  match build with
  | .writev =>
    if !err then
      modifyConnection self fun c =>
        { c with outboundPages := consumeSent (iovecs pages).length bytesWritten c.outboundPages }
    else pure ()
  | .copy =>
    if bytesWritten < buffer.length then do
      if !(← malloc) then throw (.runtimeError "bad alloc throwing back data")
      modifyConnection self fun c =>
        { c with outboundPages := ⟨buffer.drop bytesWritten, 0⟩ :: c.outboundPages }
    else pure ()

/-- `_WriteOutboundData`: gather, write, subtract what the kernel took, release backpressure,
then drop the sent bytes from the queue. A fatal error closes the socket; a transient one waits
for the next writable event. A write on a closed socket is tolerated once. -/
def writeOutboundData (build : Build) (self : Binding) (r : SyscallResult) : EM Unit := do
  let sd := (← descriptor self).mySocket
  if sd = invalidSocket then
    if (← connection self).bWriteAttemptedAfterClose then
      throw (.assertionFailed "!bWriteAttemptedAfterClose")
    modifyConnection self fun c => { c with bWriteAttemptedAfterClose := true }
  else
    let now ← getCurrentLoopTime
    modifyDescriptor self fun d => { d with lastActivity := now }
    let pages := (← connection self).outboundPages
    let (buffer, queued) := gather build pages
    modifyConnection self fun c => { c with outboundPages := queued }
    if buffer.length = 0 then throw (.assertionFailed "nbytes > 0")
    let err := decide (r.ret < 0)
    let bytesWritten := if err then 0 else r.ret.toNat
    emit (.send sd (buffer.take bytesWritten))
    modifyConnection self fun c =>
      { c with outboundDataSize := c.outboundDataSize - bytesWritten }
    releaseSource self
    consumeOutbound build self pages buffer bytesWritten err
    updateEvents self false true
    if err ∧ !transientWriteErrno r.errno then
      modifyDescriptor self fun d => { d with unbindReasonCode := r.errno }
      EventableDescriptor.close self

/-- `ConnectionDescriptor::Write`. -/
def write (app : App) (build : Build) (self : Binding) (status : ConnectStatus)
    (r : SyscallResult) : EM Unit := do
  let c ← connection self
  if c.bConnectPending then
    if status.ret = 0 ∧ status.error = 0 then
      invokeCallback app self .connectionCompleted [] 0
      setConnectPending self false
    else
      if status.ret = 0 then
        modifyDescriptor self fun d => { d with unbindReasonCode := status.error }
      scheduleClose self false
  else
    if c.bNotifyWritable then
      invokeCallback app self .connectionNotifyWritable [] 0
      updateEvents self false true
      return
    if (← descriptor self).bWatchOnly then throw (.assertionFailed "!bWatchOnly")
    writeOutboundData build self r

/-- `ConnectionDescriptor::HandleError`: a watch-only socket gets the readiness events the
error implies; any other connection is closed at once. -/
def handleError (app : App) (build : Build) (self : Binding) (results : List ReadResult)
    (status : ConnectStatus) (r : SyscallResult) : EM Unit := do
  let d ← descriptor self
  if d.bWatchOnly then
    if d.mySocket = invalidSocket then return
    if (← connection self).bNotifyReadable then read app self results
    if (← connection self).bNotifyWritable then write app build self status r
  else
    scheduleClose self false

/-- `ConnectionDescriptor::Heartbeat`: close a connect that took too long, or a connection
idle for its inactivity timeout (with the timer quantum as slack). -/
def heartbeat (self : Binding) : EM Unit := do
  let skew ← getTimerQuantum
  let d ← descriptor self
  let now ← getCurrentLoopTime
  if (← connection self).bConnectPending then
    if now - d.createdAt ≥ d.pendingConnectTimeout then
      modifyDescriptor self fun d => { d with unbindReasonCode := etimedout }
      scheduleClose self false
  else
    if d.inactivityTimeout ≠ 0 ∧ skew + now - d.lastActivity ≥ d.inactivityTimeout then
      modifyDescriptor self fun d => { d with unbindReasonCode := etimedout }
      scheduleClose self false

end ConnectionDescriptor

end EventMachine
