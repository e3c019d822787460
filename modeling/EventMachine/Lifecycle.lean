import EventMachine.Datagram

/-!
# Creating and destroying descriptors

A descriptor is created on a valid handle with a fresh binding, and destroyed by the reactor
once `ShouldDelete` holds. Destruction runs the destructor chain of `ed.cpp`: the subclass
destructor, then `~EventableDescriptor` (drop the heartbeat, fire the unbind callback, detach
the proxy source, count the close as done, stop its own proxy, close the socket), then
`~Bindable_t`, which forgets the binding.

The listening socket creates connections; the loop breaker and the change-notification
descriptor hand their readiness to the reactor.
-/

namespace EventMachine

/-- The base constructor on handle `sd`, completed by a subclass constructor's members, epoll
mask and unbind flag: it refuses an invalid handle, stamps the creation time, and
`Bindable_t` gives the object the next binding. -/
def newDescriptor (sd : Int) (sub : Subclass) (events : UInt32) (callbackUnbind : Bool) :
    EM Binding := do
  if sd = invalidSocket then throw (.runtimeError "bad eventable descriptor")
  let now ← getCurrentLoopTime
  let r ← get
  let b := r.nextBinding
  set { r with
    descriptors := Function.update r.descriptors b (some
      { mySocket := sd, createdAt := now, lastActivity := now, epollEvents := events,
        bCallbackUnbind := callbackUnbind, sub := sub })
    nextBinding := b + 1 }
  return b

/-- Modelled from the spec: `EventMachine_t::Add` (em.cpp, not under src/) registers a new
descriptor with the poller; it is recorded in the trace. -/
def addDescriptor (b : Binding) : EM Unit := emit (.add b)

namespace EventableDescriptor

/-- `~EventableDescriptor`. `ProxiedFrom` is read again after the callback, which may have
changed it. -/
def destructor (app : App) (self : Binding) : EM Unit := do
  let d ← descriptor self
  if d.nextHeartbeat ≠ 0 then
    clearHeartbeat d.nextHeartbeat self
  if d.bCallbackUnbind then
    invokeCallback app self .connectionUnbound [] d.unbindReasonCode
  if let some src := (← descriptor self).proxiedFrom then
    discard <| descriptor src
    invokeCallback app src .proxyTargetUnbound [] 0
    match (← descriptor self).proxiedFrom with
    | some src => stopProxy src
    | none => throw (.undefinedBehaviour "null ProxiedFrom")
  modify fun r => { r with numCloseScheduled := r.numCloseScheduled - 1 }
  stopProxy self
  close self

end EventableDescriptor

/-- `~Bindable_t`: the binding no longer names an object. -/
def forgetBinding (b : Binding) : EM Unit :=
  modify fun r => { r with descriptors := Function.update r.descriptors b none }

/-- `delete ed`: the destructor chain, subclass first. Only `~InotifyDescriptor` does
anything visible before the base destructor: it closes its handle itself. -/
def destroy (app : App) (self : Binding) : EM Unit := do
  let d ← descriptor self
  if d.sub = .inotify then
    emit (.close d.mySocket)
    modifyDescriptor self fun d => { d with mySocket := invalidSocket }
  EventableDescriptor.destructor app self
  forgetBinding self

/-- What one `accept` produced: nothing (the queue is drained), or a handle together with
whether making it close-on-exec and non-blocking succeeded. -/
inductive AcceptResult
  | drained
  | accepted (sd : Int) (setupOk : Bool)
  deriving DecidableEq, Repr

namespace AcceptorDescriptor

/-- `new AcceptorDescriptor (sd, em)`. -/
def create (sd : Int) : EM Binding := newDescriptor sd .acceptor epollIn true

/-- The accept loop of `Read`, with `n` accepts left. A handle whose setup fails is closed;
any other becomes a server-mode connection whose epoll mask is computed after the
application has seen it. -/
def readLoop (app : App) (self : Binding) : Nat → List AcceptResult → EM Unit
  | 0, _ => pure ()
  | n + 1, results => do
    match results.headD .drained with
    | .drained => pure ()
    | .accepted sd false =>
      emit (.shutdown sd)
      emit (.close sd)
      readLoop app self n results.tail
    | .accepted sd true =>
      let cd ← newDescriptor sd (.connection {}) 0 true
      modifyConnection cd fun c => { c with bIsServer := true }
      invokeCallback app self .connectionAccepted [] cd
      let d ← descriptor cd
      let c ← connection cd
      let e : UInt32 := if ConnectionDescriptor.selectForRead d c then 0 ||| epollIn else 0
      let e := if ConnectionDescriptor.selectForWrite d c then e ||| epollOut else e
      modifyDescriptor cd fun d => { d with epollEvents := e }
      addDescriptor cd
      readLoop app self n results.tail

/-- `AcceptorDescriptor::Read`: accept up to `SimultaneousAcceptCount` connections. -/
def read (app : App) (self : Binding) (results : List AcceptResult) : EM Unit := do
  readLoop app self (← get).simultaneousAcceptCount results

/-- `AcceptorDescriptor::Write`. -/
def write : EM Unit := throw (.runtimeError "bad code path in acceptor")

end AcceptorDescriptor

namespace LoopbreakDescriptor

/-- `new LoopbreakDescriptor (sd, em)`: no unbind callback. -/
def create (sd : Int) : EM Binding := newDescriptor sd .loopbreak epollIn false

/-- Modelled from the spec: `LoopbreakDescriptor::Read` calls
`EventMachine_t::_ReadLoopBreaker` (em.cpp, not under src/), which drains the wake channel and
signals the application. -/
def read (app : App) : EM Unit := invokeCallback app 0 .loopbreakSignal [] 0

/-- `LoopbreakDescriptor::Write`. -/
def write : EM Unit := throw (.runtimeError "bad code path in loopbreak")

end LoopbreakDescriptor

namespace InotifyDescriptor

/-- `new InotifyDescriptor (em)`: the base constructor runs on handle `0`, then the handle of
`inotify_init`, `fd`, replaces it. When `fd` is `-1` the constructor throws, and C++ destroys
the base part that was already built. -/
def create (app : App) (fd : Int) : EM Binding := do
  let b ← newDescriptor 0 .inotify 0 false
  if fd = -1 then
    EventableDescriptor.destructor app b
    forgetBinding b
    throw (.runtimeError "unable to create inotify descriptor")
  modifyDescriptor b fun d => { d with mySocket := fd, epollEvents := epollIn }
  return b

/-- Modelled from the spec: `InotifyDescriptor::Read` calls
`EventMachine_t::_ReadInotifyEvents` (em.cpp, not under src/), which hands each queued change
notification to the application. -/
def read (app : App) (self : Binding) : EM Unit :=
  invokeCallback app self .connectionRead [] 0

/-- `InotifyDescriptor::Write`. -/
def write : EM Unit := throw (.runtimeError "bad code path in inotify")

end InotifyDescriptor

end EventMachine
